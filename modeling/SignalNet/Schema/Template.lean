import SignalNet.Class.Template
import SignalNet.Schema.Entry

/-!
Contract: reading literals, assignments and network templates from configuration
trees.

Every fault names the place where it was found, as a path of keys.
-/

set_option autoImplicit false

namespace SignalNet

/-- A literal that stands for all channels, or an item of a list. -/
def Literal.ofItem? : Toml → Except SyntaxFault Literal
  | .boolean b => .ok (.bool b)
  | .integer n => .ok (.int n)
  | .float x => .ok (.float x)
  | .string text => .ok (.string text)
  | .array _ => .error .nestedList
  | .table _ => .error .tableValue
  | .datetime _ => .error .datetimeValue

/-- Read a literal. An array is a list with one scalar per channel. -/
def Literal.ofToml (context : String) (value : Toml) : Except SchemaError Literal :=
  (match value with
    | .array items => (items.mapM Literal.ofItem?).map Literal.list
    | _ => Literal.ofItem? value).mapError (.badSyntax context)

def below (context key : String) : String := context ++ "." ++ key

def Assignments.ofToml (context : String) (entries : List (String × Toml)) :
    Except SchemaError Assignments :=
  (entries.mapM fun (label, value) =>
    (Literal.ofToml (below context label) value).map fun literal => (label, literal)).map
      Assignments.ofList

/-- The table under a key; no entry is no table. -/
def subTable (context : String) (entries : List (String × Toml)) (key : String) :
    Except SchemaError (List (String × Toml)) :=
  match Toml.lookup entries key with
  | none => .ok []
  | some (.table inner) => .ok inner
  | some other => .error (.badSyntax (below context key) (.notTable other.kind))

def InputSpec.ofToml (context var : String) : Toml → Except SchemaError InputSpec
  | .string source => .ok ⟨var, source⟩
  | _ => .error (.badSyntax (below context var) .connectionNotText)

def ProcSpec.ofToml (context label : String) (value : Toml) : Except SchemaError ProcSpec := do
  let (className, entry) ← (ProcEntry.read value).mapError (.badSyntax context ∘ .field)
  let arguments ← Assignments.ofToml (below context "args") entry.arguments
  let inputs ← entry.inputs.mapM fun (var, source) =>
    InputSpec.ofToml (below context "in") var source
  return ⟨label, className, arguments, inputs, entry.preset, entry.polyCount, entry.device⟩

def PresetEntry.ofToml (context : String) : Toml → Except SchemaError PresetEntry
  | .string label => .ok (.named label)
  | .table entries => (Assignments.ofToml context entries).map .inline
  | other => .error (.badSyntax context (.badPresetEntry other.kind))

def NetworkPreset.ofToml (context label : String) : Toml → Except SchemaError NetworkPreset
  | .table entries =>
      (entries.mapM fun (proc, value) =>
        (PresetEntry.ofToml (below context proc) value).map fun entry => (proc, entry)).map
          (NetworkPreset.mk label)
  | _ => .error (.badSyntax context .networkPresetNotTable)

/-- Read a network: a table of procs and a table of presets, either of which may be
missing. -/
def Template.ofToml (context : String) (entries : List (String × Toml)) :
    Except SchemaError Template := do
  match entries.find? fun entry => entry.1 != "procs" && entry.1 != "presets" with
  | some (key, _) => .error (.badSyntax (below context key) .unknownNetworkKey)
  | none =>
      let procs ← subTable context entries "procs"
      let procs ← procs.mapM fun (label, value) =>
        ProcSpec.ofToml (below (below context "procs") label) label value
      let presets ← subTable context entries "presets"
      let presets ← presets.mapM fun (label, value) =>
        NetworkPreset.ofToml (below (below context "presets") label) label value
      return ⟨procs, presets⟩

end SignalNet
