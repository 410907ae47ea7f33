import SignalNet.Native.Device
import SignalNet.Variable.Bank

/-!
Contract: what a native class has to provide.

A native class creates one processor per proc. A processor is stepped once per
cycle on the bank of its proc and on the device that the proc is bound to, and
it hears of variables that were set from outside. Networks work over any type of
processors, so the laws of networks hold for all native classes at once.

Owns: the interface, the timing of cycles, and the faults of native code.
-/

set_option autoImplicit false

namespace SignalNet

/-- The sample rate, and the frames of one cycle. -/
structure Timing where
  sampleRate : Float
  framesPerCycle : Nat
deriving DecidableEq

/-- The timing of a network that asks for none. -/
def Timing.standard : Timing := ⟨48000, 64⟩

/-- What one step says about the run. -/
inductive StepStatus where
  | proceed
  | endOfStream
deriving DecidableEq, Repr, Inhabited

/-- The end of the stream outweighs everything else. -/
def StepStatus.or : StepStatus → StepStatus → StepStatus
  | .endOfStream, _ => .endOfStream
  | .proceed, status => status

/-- A fault of a native class. -/
inductive NativeError where
  | undeclared (label : String)
  | unstorable (fault : ValueError)
  | outNotAudio
  | pairNotAudio
  | noDevice
  | wrongDirection (device : String) (direction : Direction)
  | notAudioDevice (device : String)
  | inputDeviceMissing
  | outputDeviceMissing
  /-- A loop runs out of the store of a block. This ends the whole program. -/
  | overrun (fault : Overrun)
  | other (message : String)
deriving DecidableEq

def NativeError.message : NativeError → String
  | undeclared label => "class does not declare variable '" ++ label ++ "'"
  | unstorable fault => fault.message
  | outNotAudio => "'out' is not an audio variable"
  | pairNotAudio => "'in' and 'out' must be audio variables"
  | noDevice => "no device bound"
  | wrongDirection device .input =>
      "device '" ++ device ++ "' has the wrong direction (In)"
  | wrongDirection device .output =>
      "device '" ++ device ++ "' has the wrong direction (Out)"
  | notAudioDevice device => "device '" ++ device ++ "' is not an audio device"
  | inputDeviceMissing => "audio input device missing"
  | outputDeviceMissing => "audio output device missing"
  | overrun fault => fault.message
  | other message => message

/-- What a processor knows about the cycle it is stepped in. All processors of a network share
it, those of the networks inside included. -/
structure CycleContext where
  timing : Timing
  cycleIndex : Nat

/-- What a step leaves behind, whether it succeeded or not. -/
structure StepResult (P : Type) where
  processor : P
  bank : Bank
  device : Option Device
  /-- What the processors that are stepped later get to know. -/
  context : CycleContext
  outcome : Except NativeError StepStatus

/-- The per-proc state of native classes. -/
class Processor (P : Type) where
  /-- Process one cycle on a bank and on the bound device. -/
  step : P → Bank → CycleContext → Option Device → StepResult P
  /-- Hear that a variable was set from outside the cycle. -/
  notify : P → Nat → Bank → P

/-- What a native class knows when it creates a processor. -/
structure CreateContext where
  label : String
  timing : Timing
  device : Option Device

/-- A native class: the kind of device its procs need, and how they are created. -/
structure NativeClass (P : Type) where
  deviceKind : Option DeviceKind
  /-- Make a processor for a bank, which may be resized. -/
  create : CreateContext → Bank → Except NativeError (P × Bank)

namespace NativeClass

/-- View the processors of a class as members of a larger type. -/
def map {P Q : Type} (f : P → Q) (native : NativeClass P) : NativeClass Q where
  deviceKind := native.deviceKind
  create context bank := (native.create context bank).map fun (processor, bank) =>
    (f processor, bank)

end NativeClass

def StepResult.map {P Q : Type} (f : P → Q) (result : StepResult P) : StepResult Q :=
  ⟨f result.processor, result.bank, result.device, result.context, result.outcome⟩

/-- Two families of processors side by side. -/
instance {P Q : Type} [Processor P] [Processor Q] : Processor (P ⊕ Q) where
  step
    | .inl processor, bank, context, device =>
        (Processor.step processor bank context device).map .inl
    | .inr processor, bank, context, device =>
        (Processor.step processor bank context device).map .inr
  notify
    | .inl processor, index, bank => .inl (Processor.notify processor index bank)
    | .inr processor, index, bank => .inr (Processor.notify processor index bank)

/-- Look up a variable that a native class cannot work without. -/
def Bank.require (bank : Bank) (label : String) : Except NativeError Nat :=
  match bank.indexOf? label with
  | some index => .ok index
  | none => .error (.undeclared label)

/-- Store a number in the first channel of a variable. -/
def Bank.store (bank : Bank) (index : Nat) (x : Float) : Except NativeError Bank :=
  (bank.setNumber index 0 x).mapError .unstorable

end SignalNet
