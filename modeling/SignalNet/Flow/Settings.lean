import SignalNet.Flow.Error
import SignalNet.Native.Processor
import SignalNet.Preset.Selector
import SignalNet.Schema.Entry

/-!
Contract: the settings of a flow.

Settings are read from the keys of a flow text; a key that is not there keeps its
default, and any other key refuses the text. Integers stand for floating-point
numbers where those are wanted.

Owns: reading settings, and the ranges that they have to be in.
-/

set_option autoImplicit false

namespace SignalNet

/-- The kinds of devices that a flow can declare. -/
inductive DeclaredKind where
  | audio
  | midi
deriving DecidableEq, Repr, Inhabited

/-- A device that a flow declares. -/
structure DeviceSpec where
  direction : Direction
  kind : DeclaredKind
  channels : Nat
deriving DecidableEq, Repr, Inhabited

/-- The settings of a flow. -/
structure FlowSettings where
  sampleRate : Float
  framesPerCycle : Nat
  /-- The most cycles of a run; zero is no limit. -/
  maxCycleCount : Nat
  /-- The most seconds of a run; zero is no limit. -/
  maxDurationSecs : Float
  /-- A preset that is applied once the network is built. -/
  preset : Option String
  mode : SelectorMode
  /-- The devices in the order of their labels. -/
  devices : List (String × DeviceSpec)

namespace FlowSettings

/-- The settings of a flow that says nothing. -/
def standard : FlowSettings :=
  ⟨Timing.standard.sampleRate, Timing.standard.framesPerCycle, 0, 0, none,
    ⟨false, false, false⟩, []⟩

def readFloat? : Toml → Option Float
  | .float x => some x
  | .integer n => some (Float.ofInt n.toInt)
  | _ => none

def readSwitch? : Toml → Option Bool
  | .boolean b => some b
  | _ => none

def readCount? (value : Toml) : Option Nat := (Entry.readCount value).toOption

def readText? (value : Toml) : Option String := (Entry.readText value).toOption

/-- Read the name of a choice: a text, or the only key of a table with nothing below
it. -/
def readChoice? : Toml → Option String
  | .string name => some name
  | .table [(name, .table [])] => some name
  | .table [(name, .array [])] => some name
  | _ => none

def readDirection? (value : Toml) : Option Direction :=
  match readChoice? value with
  | some "in" => some .input
  | some "out" => some .output
  | _ => none

def readKind? (value : Toml) : Option DeclaredKind :=
  match readChoice? value with
  | some "audio" => some .audio
  | some "midi" => some .midi
  | _ => none

def deviceKey (spec : Option Direction × DeclaredKind × Nat) (entry : String × Toml) :
    Option (Option Direction × DeclaredKind × Nat) :=
  match entry.1 with
  | "dir" => (readDirection? entry.2).map fun direction => (some direction, spec.2)
  | "kind" => (readKind? entry.2).map fun kind => (spec.1, kind, spec.2.2)
  | "channels" => (readCount? entry.2).map fun channels => (spec.1, spec.2.1, channels)
  | _ => none

/-- The fields of a device: of a table, or of a list that has them in a fixed order. -/
def deviceFields? : Toml → Option (List (String × Toml))
  | .table entries => some entries
  | .array items => if items.length ≤ 3 then some (["dir", "kind", "channels"].zip items) else none
  | _ => none

/-- Read a device, which has to have a direction. -/
def readDevice? (value : Toml) : Option DeviceSpec := do
  let entries ← deviceFields? value
  let (direction, kind, channels) ← entries.foldlM deviceKey (none, .audio, 1)
  direction.map fun direction => ⟨direction, kind, channels⟩

/-- Put a device in the order of labels. -/
def insertDevice (label : String) (spec : DeviceSpec) :
    List (String × DeviceSpec) → List (String × DeviceSpec)
  | [] => [(label, spec)]
  | (other, present) :: rest =>
      if label < other then (label, spec) :: (other, present) :: rest
      else (other, present) :: insertDevice label spec rest

def readDevices? (value : Toml) : Option (List (String × DeviceSpec)) := do
  let entries ← Entry.entries? value
  entries.foldlM (fun devices (label, value) =>
    (readDevice? value).map fun spec => insertDevice label spec devices) []

def readKey (settings : FlowSettings) (entry : String × Toml) : Option FlowSettings :=
  let value := entry.2
  match entry.1 with
  | "sample_rate" => (readFloat? value).map fun x => { settings with sampleRate := x }
  | "frames_per_cycle" => (readCount? value).map fun n => { settings with framesPerCycle := n }
  | "max_cycle_count" => (readCount? value).map fun n => { settings with maxCycleCount := n }
  | "max_duration_secs" => (readFloat? value).map fun x => { settings with maxDurationSecs := x }
  | "preset" => (readText? value).map fun label => { settings with preset := some label }
  | "multi_pri_preset_prob" =>
      (readSwitch? value).map fun b => { settings with mode.drawPrimary := b }
  | "multi_sec_preset_prob" =>
      (readSwitch? value).map fun b => { settings with mode.drawSecondary := b }
  | "multi_preset_interp" =>
      (readSwitch? value).map fun b => { settings with mode.interpolate := b }
  | "devices" => (readDevices? value).map fun devices => { settings with devices }
  | _ => none

/-- Read the keys of a flow. Dates and times are read as their texts. -/
def ofToml? (entries : List (String × Toml)) : Option FlowSettings :=
  (Toml.plainEntries entries).foldlM readKey standard

/-- Check the ranges of settings, the first faulty one first. -/
def validate (settings : FlowSettings) : Except FlowError Unit :=
  if !(settings.sampleRate.isFinite && 0 < settings.sampleRate) then
    .error (.invalidSetting "sample_rate" (.notPositive settings.sampleRate))
  else if settings.framesPerCycle = 0 then
    .error (.invalidSetting "frames_per_cycle" .zeroFrames)
  else if !(settings.maxDurationSecs.isFinite && 0 ≤ settings.maxDurationSecs) then
    .error (.invalidSetting "max_duration_secs" (.negative settings.maxDurationSecs))
  else match settings.devices.find? fun entry =>
      entry.2.kind == .audio && entry.2.channels == 0 with
    | some (label, _) => .error (.invalidSetting "devices" (.noChannels label))
    | none => .ok ()

def timing (settings : FlowSettings) : Timing := ⟨settings.sampleRate, settings.framesPerCycle⟩

/-- The most cycles of a run: the smaller of the limit on cycles and the limit on time. -/
def maxCycles (settings : FlowSettings) : Option Nat :=
  let byCount := if 0 < settings.maxCycleCount then some settings.maxCycleCount else none
  let byTime :=
    if 0 < settings.maxDurationSecs then
      some (Number.ceilingCount (settings.maxDurationSecs * settings.sampleRate /
        Float.ofNat settings.framesPerCycle))
    else none
  match byCount, byTime with
  | some count, some time => some (min count time)
  | some count, none => some count
  | none, time => time

def newDevice (settings : FlowSettings) (label : String) (spec : DeviceSpec) : Device :=
  match spec.kind with
  | .audio =>
      ⟨label, spec.direction, .audio (AudioBlock.silent spec.channels settings.framesPerCycle)⟩
  | .midi => ⟨label, spec.direction, .midi []⟩

/-- New devices as declared, in the order of their labels. -/
def newDevices (settings : FlowSettings) : List Device :=
  settings.devices.map fun (label, spec) => settings.newDevice label spec

/-- A selector without candidates, in the mode of the flow. -/
def selector (settings : FlowSettings) : PresetSelector := ⟨[], [], settings.mode, none⟩

end FlowSettings

end SignalNet
