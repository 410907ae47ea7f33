import SignalNet.Value.Basic

/-!
Contract: the external endpoints that a network exchanges signals with.
-/

set_option autoImplicit false

namespace SignalNet

/-- Whether a network reads a device or writes it. -/
inductive Direction where
  | input
  | output
deriving DecidableEq, Repr, Inhabited

/-- What a device carries. -/
inductive DeviceKind where
  | audio
  | midi
  | other
deriving DecidableEq, Repr, Inhabited

/-- What a device holds for one cycle. -/
inductive DeviceBuffer where
  | audio (block : AudioBlock)
  | midi (messages : List MidiMessage)
  | none
deriving DecidableEq, Inhabited

/-- An external endpoint. -/
structure Device where
  label : String
  direction : Direction
  buffer : DeviceBuffer
deriving DecidableEq, Inhabited

namespace Device

/-- The kind of a device, which its buffer decides. -/
def kind (device : Device) : DeviceKind :=
  match device.buffer with
  | .audio _ => .audio
  | .midi _ => .midi
  | .none => .other

def audio? (device : Device) : Option AudioBlock :=
  match device.buffer with
  | .audio block => some block
  | .midi _ | .none => none

def frames? (device : Device) : Option Nat := device.audio?.map (·.frames)

/-- Change the block of an audio device; any other device stays as it is. -/
def mapAudio (device : Device) (f : AudioBlock → AudioBlock) : Device :=
  match device.buffer with
  | .audio block => ⟨device.label, device.direction, .audio (f block)⟩
  | .midi _ | .none => device

def isAudioInput (device : Device) : Bool :=
  device.direction == .input && device.kind == .audio

def isAudioOutput (device : Device) : Bool :=
  device.direction == .output && device.kind == .audio

/-- Overwrite the first samples of a channel; the flag says whether there was one. -/
def fill (device : Device) (ch : Nat) (samples : Array Float32) : Device × Bool :=
  match device.audio? with
  | some block =>
      if ch < block.channels then (device.mapAudio (·.fill ch samples), true)
      else (device, false)
  | none => (device, false)

end Device

end SignalNet
