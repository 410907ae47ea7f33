import SignalNet.Class.Description
import SignalNet.Native.Registry
import SignalNet.Schema.Template

/-!
Contract: collecting class descriptions.

A catalogue holds the classes read so far. Plain classes are matched to their
native implementation and are fully typed; variables of subnets still lack the
type of the variable they stand for. A description that fails leaves no trace.

Owns: reading classes and their variables, and the labels that are taken. Their
resolution lives in `SignalNet.Schema.Resolution`.
-/

set_option autoImplicit false

namespace SignalNet

/-- The two sections of a description. -/
inductive ClassSection where
  | plain
  | subnet
deriving DecidableEq, Repr

def ClassSection.key : ClassSection → String
  | plain => "classes"
  | subnet => "subnets"

/-- The classes read so far. -/
structure Catalogue (P : Type) where
  registry : Registry P
  plain : List (ClassDescription P)
  subnets : List (ClassDescription P)
  /-- Which labels are taken, and by which section. -/
  labels : List (String × ClassSection)

def FlagSet.ofTokens (className var : String) (tokens : List String) :
    Except SchemaError FlagSet :=
  tokens.foldlM (fun flags token =>
    match Flag.ofToken? token with
    | some flag => .ok (flags.union (.single flag))
    | none => .error (.unknownFlag className var token)) .empty

def ValueType.read (className var label : String) : Except SchemaError ValueType :=
  match ValueType.ofLabel? label with
  | some type => .ok type
  | none => .error (.unknownType className var label)

/-- Read the initial literal of a variable, if there is one. -/
def VariableEntry.initial (context : String) (entry : VariableEntry) :
    Except SchemaError (Option Literal) :=
  match entry.value with
  | none => .ok none
  | some value => (Literal.ofToml context value).map some

/-- Read a variable of a plain class. It has a type, and it is no subnet output. -/
def Declaration.ofPlain (className var context : String) (entry : VariableEntry) :
    Except SchemaError Declaration := do
  let some doc := entry.doc | .error (.missingDoc className var)
  let some label := entry.type | .error (.missingType className var)
  let type ← ValueType.read className var label
  let flags ← FlagSet.ofTokens className var entry.flags
  let initial ← entry.initial context
  return ⟨var, doc, some type, flags.difference (.single .out), initial, false, none⟩

/-- Read a variable of a subnet. It stands for an inner variable, whose type it takes
later; a type that is written anyway has to be a type. -/
def Declaration.ofSubnet (className var context : String) (entry : VariableEntry) :
    Except SchemaError Declaration := do
  let some doc := entry.doc | .error (.missingDoc className var)
  let some written := entry.target | .error (.missingTarget className var)
  let target ← (VarRef.parse written).mapError (.malformedTarget className var written)
  if let some label := entry.type then
    let _ ← ValueType.read className var label
  let flags ← FlagSet.ofTokens className var entry.flags
  let initial ← entry.initial context
  return ⟨var, doc, none, flags, initial, false, some target⟩

def Declaration.ofToml (kind : ClassSection) (className context var : String) (value : Toml) :
    Except SchemaError Declaration := do
  let context := below (below context "vars") var
  let entry ← (VariableEntry.read value).mapError (.badSyntax context ∘ .field)
  match kind with
  | .plain => Declaration.ofPlain className var context entry
  | .subnet => Declaration.ofSubnet className var context entry

def ClassPreset.ofToml (context label : String) (value : Toml) :
    Except SchemaError ClassPreset :=
  let context := below (below context "presets") label
  match value with
  | .table entries => (Assignments.ofToml context entries).map (ClassPreset.mk label)
  | _ => .error (.badSyntax context .presetNotTable)

namespace Catalogue

variable {P : Type}

def empty (registry : Registry P) : Catalogue P := ⟨registry, [], [], []⟩

/-- The section that has taken a label. -/
def section? (catalogue : Catalogue P) (label : String) : Option ClassSection :=
  (catalogue.labels.find? (·.1 == label)).map (·.2)

/-- What stands behind a class: the native implementation under its label, or the
network that it declares. -/
def readKind (catalogue : Catalogue P) (kind : ClassSection) (context label : String)
    (network : Option (List (String × Toml))) : Except SchemaError (ClassKind P) :=
  match kind, network with
  | .plain, some _ => .error (.badSyntax context .networkOnPlain)
  | .plain, none =>
      match catalogue.registry.get? label with
      | some native => .ok (.plain native)
      | none => .error (.unknownClass label)
  | .subnet, none => .error (.badSyntax context .networkMissing)
  | .subnet, some entries =>
      (Template.ofToml (below context "network") entries).map .subnet

/-- Read a class. A limit of zero is no limit. -/
def readClass (catalogue : Catalogue P) (kind : ClassSection) (label : String) (value : Toml) :
    Except SchemaError (ClassDescription P) := do
  let context := below kind.key label
  let entry ← (ClassEntry.read value).mapError (.badSyntax context ∘ .field)
  let body ← catalogue.readKind kind context label entry.network
  let vars ← entry.vars.mapM fun (var, value) =>
    Declaration.ofToml kind label context var value
  let presets ← entry.presets.mapM fun (preset, value) =>
    ClassPreset.ofToml context preset value
  return ⟨label, vars, presets, body, entry.polyLimit.filter (0 < ·)⟩

def store (catalogue : Catalogue P) (kind : ClassSection) (description : ClassDescription P) :
    Catalogue P :=
  let labels := catalogue.labels ++ [(description.label, kind)]
  match kind with
  | .plain => { catalogue with plain := catalogue.plain ++ [description], labels }
  | .subnet => { catalogue with subnets := catalogue.subnets ++ [description], labels }

/-- Add a class whose label is free. -/
def addClass (catalogue : Catalogue P) (kind : ClassSection) (label : String) (value : Toml) :
    Except SchemaError (Catalogue P) :=
  if label = Registry.subnetLabel then .error (.reservedLabel label)
  else match catalogue.section? label with
    | some taken =>
        .error (if kind = .plain ∧ taken = .plain then .duplicateClass label
          else .duplicateSubnet label)
    | none => (catalogue.readClass kind label value).map (catalogue.store kind)

/-- Add the classes of a section until one fails. -/
def addSection (kind : ClassSection) (catalogue : Catalogue P) :
    List (String × Toml) → Catalogue P × Except SchemaError Unit
  | [] => (catalogue, .ok ())
  | (label, value) :: rest =>
      match catalogue.addClass kind label value with
      | .error fault => (catalogue, .error fault)
      | .ok larger => addSection kind larger rest

def sectionOf (key : String) : Except SchemaError ClassSection :=
  match key with
  | "classes" => .ok .plain
  | "subnets" => .ok .subnet
  | _ => .error (.badSyntax key .unknownSection)

/-- Add the sections of a table until one fails. What was read before stays. -/
def addTable (catalogue : Catalogue P) :
    List (String × Toml) → Catalogue P × Except SchemaError Unit
  | [] => (catalogue, .ok ())
  | (key, value) :: rest =>
      match sectionOf key, value with
      | .error fault, _ => (catalogue, .error fault)
      | .ok kind, .table entries =>
          match addSection kind catalogue entries with
          | (larger, .ok ()) => addTable larger rest
          | (larger, .error fault) => (larger, .error fault)
      | .ok _, _ => (catalogue, .error (.badSyntax key .sectionNotTable))

end Catalogue

end SignalNet
