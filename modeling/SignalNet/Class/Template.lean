import SignalNet.Value.Literal

/-!
Contract: the description of a network before it is built.

A template lists its procs in creation order, with their arguments and their
connections as written, and its presets.
-/

set_option autoImplicit false

namespace SignalNet

/-- A connection as written: a variable of the proc reads a `proc.variable`. -/
structure InputSpec where
  var : String
  source : String
deriving DecidableEq, Repr, Inhabited

/-- One proc of a template. -/
structure ProcSpec where
  label : String
  className : String
  arguments : Assignments
  inputs : List InputSpec
  /-- A preset of the class, applied at construction. -/
  preset : Option String
  /-- The number of replicas of a subnet. -/
  polyCount : Option Nat
  device : Option String
deriving Inhabited

/-- What a preset of a network gives to one proc: a preset of its class by label, or
values of its own. -/
inductive PresetEntry where
  | named (label : String)
  | inline (body : Assignments)
deriving Inhabited

/-- A preset of a network. -/
structure NetworkPreset where
  label : String
  entries : List (String × PresetEntry)
deriving Inhabited

def NetworkPreset.find? (preset : NetworkPreset) (proc : String) : Option PresetEntry :=
  (preset.entries.find? (·.1 == proc)).map (·.2)

/-- A network that is not built yet. -/
structure Template where
  procs : List ProcSpec
  presets : List NetworkPreset
deriving Inhabited

namespace Template

def proc? (template : Template) (label : String) : Option ProcSpec :=
  template.procs.find? (·.label == label)

def procIndex? (template : Template) (label : String) : Option Nat :=
  template.procs.findIdx? (·.label == label)

def preset? (template : Template) (label : String) : Option NetworkPreset :=
  template.presets.find? (·.label == label)

end Template

end SignalNet
