import SignalNet.Native.Builtin
import SignalNet.Schema.Error

/-!
Contract: which native classes exist.

A registry lists native classes under distinct labels, in the order of their
registration. One label belongs to all subnets and cannot be registered.
-/

set_option autoImplicit false

namespace SignalNet

/-- The role of a native class. -/
inductive Category where
  | control
  | source
  | audio
  | device
deriving DecidableEq, Repr, Inhabited

namespace Category

def label : Category → String
  | control => "Control"
  | source => "Source"
  | audio => "Audio"
  | device => "Device"

def ofLabel? (name : String) : Option Category :=
  [control, source, audio, device].find? (·.label == name)

end Category

/-- What a registry says about a class. -/
structure ClassInfo where
  label : String
  description : String
  category : Category
deriving DecidableEq, Repr, Inhabited

/-- A registered class. -/
structure Registration (P : Type) where
  info : ClassInfo
  native : NativeClass P

/-- The registered classes in order. -/
structure Registry (P : Type) where
  entries : List (Registration P)

namespace Registry

variable {P Q : Type}

/-- The label that stands for every subnet. -/
def subnetLabel : String := "subnet"

def empty : Registry P := ⟨[]⟩

def find? (registry : Registry P) (label : String) : Option (Registration P) :=
  registry.entries.find? (·.info.label == label)

def get? (registry : Registry P) (label : String) : Option (NativeClass P) :=
  (registry.find? label).map (·.native)

def info? (registry : Registry P) (label : String) : Option ClassInfo :=
  (registry.find? label).map (·.info)

def contains (registry : Registry P) (label : String) : Bool := (registry.find? label).isSome

def all (registry : Registry P) : List ClassInfo := registry.entries.map (·.info)

def inCategory (registry : Registry P) (category : Category) : List ClassInfo :=
  registry.all.filter (·.category == category)

def size (registry : Registry P) : Nat := registry.entries.length

/-- Add a class under a free label. -/
def register (registry : Registry P) (info : ClassInfo) (native : NativeClass P) :
    Except SchemaError (Registry P) :=
  if info.label = subnetLabel then .error (.reservedLabel info.label)
  else if registry.contains info.label then .error (.duplicateClass info.label)
  else .ok ⟨registry.entries ++ [⟨info, native⟩]⟩

/-- View all processors as members of a larger type. -/
def map (f : P → Q) (registry : Registry P) : Registry Q :=
  ⟨registry.entries.map fun entry => ⟨entry.info, entry.native.map f⟩⟩

/-- The classes that come with the library. -/
def builtin : Registry Builtin :=
  ⟨[⟨⟨"number", "Emits a constant control value", .control⟩, Builtin.numberClass⟩,
    ⟨⟨"counter", "Cycle counter that can end the stream at a limit", .control⟩,
      Builtin.counterClass⟩,
    ⟨⟨"sine_tone", "Multi-channel sine oscillator", .source⟩, Builtin.sineToneClass⟩,
    ⟨⟨"audio_gain", "Ramped linear gain", .audio⟩, Builtin.audioGainClass⟩,
    ⟨⟨"audio_mix", "Weighted sum of two audio inputs", .audio⟩, Builtin.audioMixClass⟩,
    ⟨⟨"audio_in", "Reads an external audio input device", .device⟩, Builtin.audioInClass⟩,
    ⟨⟨"audio_out", "Writes an external audio output device", .device⟩,
      Builtin.audioOutClass⟩]⟩

end Registry

end SignalNet
