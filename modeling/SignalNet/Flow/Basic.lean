import SignalNet.Crossfade.Basic
import SignalNet.Flow.Settings
import SignalNet.Preset.Apply
import SignalNet.Schema.Resolution
import SignalNet.Toml.Reader

/-!
Contract: a flow from its texts to its run.

A flow joins a class set with a root network and with settings. It builds networks
on devices, with an initial preset that may apply in part, and runs them to the
end of the stream or to its limit.
-/

set_option autoImplicit false

namespace SignalNet

/-- Add the classes of a configuration text until one fails. -/
def Catalogue.addText {P : Type} (catalogue : Catalogue P) (text : String) :
    Catalogue P × Except FlowError Unit :=
  match Toml.parse? text with
  | none => (catalogue, .error .malformed)
  | some entries =>
      let (larger, outcome) := catalogue.addTable entries
      (larger, outcome.mapError .schema)

/-- A flow. -/
structure Flow (P : Type) where
  classes : ClassSet P
  template : Template
  settings : FlowSettings

namespace Flow

variable {P : Type}

/-- The table of the root network, and the other entries. -/
def takeNetwork (entries : List (String × Toml)) :
    Except FlowError (List (String × Toml) × List (String × Toml)) :=
  match Toml.lookup entries "network" with
  | some (.table network) => .ok (network, Toml.without entries "network")
  | some other => .error (.invalidSetting "network" (.notTable other.kind))
  | none => .error (.invalidSetting "network" .missingTable)

def ofText (classes : ClassSet P) (text : String) : Except FlowError (Flow P) := do
  match Toml.parse? text with
  | none => .error .malformed
  | some entries =>
      let (network, others) ← takeNetwork entries
      match FlowSettings.ofToml? others with
      | none => .error .malformed
      | some settings =>
          settings.validate
          let template ← (Template.ofToml "network" network).mapError .schema
          return ⟨classes, template, settings⟩

/-- Read a class text and a flow text. -/
def ofTexts (registry : Registry P) (classText flowText : String) :
    Except FlowError (Flow P) := do
  let (catalogue, outcome) := (Catalogue.empty registry).addText classText
  outcome
  let classes ← catalogue.finish.mapError .schema
  ofText classes flowText

/-- Load a flow from two files, where none stands for a file that cannot be read. The
class file is read first. -/
def load (registry : Registry P) (classText flowText : Option String) :
    Except FlowError (Flow P) :=
  match classText, flowText with
  | some classText, some flowText => ofTexts registry classText flowText
  | _, _ => .error .unreadable

/-- Apply the initial preset, which may fail in part. -/
def applyInitial [Processor P] (flow : Flow P) (network : Network P) :
    Except FlowError (Network P) :=
  match flow.settings.preset with
  | none => .ok network
  | some label =>
      match network.applyPreset label none with
      | (applied, .ok ()) => .ok applied
      | (applied, .error (.incomplete _ _)) => .ok applied
      | (_, .error fault) => .error (.preset fault)

def build [Processor P] (flow : Flow P) (devices : List Device) :
    Except FlowError (Network P) := do
  let network ← (Network.build flow.classes flow.template flow.settings.timing devices).mapError
    .network
  flow.applyInitial network

/-- Build two networks that are mixed into a third set of devices. -/
def buildPair [Processor P] (flow : Flow P) : Except FlowError (Crossfade P) := do
  let devices := flow.settings.newDevices
  let current ← flow.build devices
  let next ← flow.build devices
  return Crossfade.new current next devices

/-- Build the network and run it. -/
def execute [Processor P] (flow : Flow P) : Except FlowError RunReport := do
  let network ← flow.build flow.settings.newDevices
  (network.run flow.settings.maxCycles).2.mapError .cycle

end Flow

end SignalNet
