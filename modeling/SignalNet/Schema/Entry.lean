import SignalNet.Schema.Error

/-!
Contract: reading entries that have a fixed set of fields.

Fields are read in the order in which they were written, and the first faulty one
decides the answer. A missing field is noticed only after all others were read. An
entry may also be a list, whose items are the fields in a fixed order; then only fields
with a default of their own may be left out. An entry knows no dates and times: it
holds their texts.
-/

set_option autoImplicit false

namespace SignalNet

/-- A value where another kind was wanted. Dates and times count as texts. -/
def Unexpected.ofToml : Toml → Unexpected
  | .boolean b => .boolean b
  | .integer n => .integer n
  | .float x => .float x
  | .string text => .string text
  | .datetime moment => .string moment.text
  | .array _ => .sequence
  | .table _ => .map

namespace Entry

def entries? : Toml → Option (List (String × Toml))
  | .table entries => some entries
  | _ => none

def refuse {α : Type} (value : Toml) (wanted : Wanted) : Except FieldFault α :=
  .error (.invalidType (.ofToml value) wanted)

def readText (value : Toml) : Except FieldFault String :=
  match value with
  | .string text => .ok text
  | _ => refuse value .text

def readTable (value : Toml) : Except FieldFault (List (String × Toml)) :=
  match entries? value with
  | some entries => .ok entries
  | none => refuse value .map

/-- Read a count, which is never negative. -/
def readCount (value : Toml) : Except FieldFault Nat :=
  match value with
  | .integer n => if n < 0 then .error (.negative n) else .ok n.toNatClampNeg
  | _ => refuse value .count

def readTexts (value : Toml) : Except FieldFault (List String) :=
  match value with
  | .array items => items.mapM readText
  | _ => refuse value .sequence

/-- The fields of a kind of entry in the order in which a list has them. Each comes with
whether it has to be in a list. -/
abbrev Layout := List (String × Bool)

def Layout.keys (layout : Layout) : List String := layout.map (·.1)

/-- Read fields in turn. -/
def foldFields {α : Type} (start : α) (field : α → String → Toml → Except FieldFault α)
    (fields : List (String × Toml)) : Except FieldFault α :=
  fields.foldlM (fun entry (key, value) => field entry key value) start

/-- Read the items of a list as the fields in their order. How long the list is matters only
after that. -/
def readItems {α : Type} (wanted : Wanted) (layout : Layout) (start : α)
    (field : α → String → Toml → Except FieldFault α) (items : List Toml) :
    Except FieldFault α := do
  let entry ← foldFields start field (layout.keys.zip items)
  match (layout.drop items.length).findIdx? (·.2) with
  | some further => .error (.tooShort (items.length + further) wanted layout.length)
  | none =>
      if items.length ≤ layout.length then .ok entry else .error (.tooLong items.length)

/-- Read the fields of an entry. Dates and times are read as their texts, at any depth. -/
def readFields {α : Type} (wanted : Wanted) (layout : Layout) (start : α)
    (field : α → String → Toml → Except FieldFault α) (value : Toml) : Except FieldFault α :=
  match value.plain with
  | .table entries => foldFields start field entries
  | .array items => readItems wanted layout start field items
  | other => refuse other wanted

end Entry

/-- The fields of a proc. -/
structure ProcEntry where
  className : Option String
  arguments : List (String × Toml)
  inputs : List (String × Toml)
  preset : Option String
  polyCount : Option Nat
  device : Option String

namespace ProcEntry

def layout : Entry.Layout :=
  [("class", true), ("args", false), ("in", false), ("preset", true), ("poly_cnt", true),
    ("device", true)]

def field (entry : ProcEntry) (key : String) (value : Toml) : Except FieldFault ProcEntry :=
  match key with
  | "class" => (Entry.readText value).map fun text => { entry with className := some text }
  | "args" => (Entry.readTable value).map fun table => { entry with arguments := table }
  | "in" => (Entry.readTable value).map fun table => { entry with inputs := table }
  | "preset" => (Entry.readText value).map fun text => { entry with preset := some text }
  | "poly_cnt" => (Entry.readCount value).map fun count => { entry with polyCount := some count }
  | "device" => (Entry.readText value).map fun text => { entry with device := some text }
  | _ => .error (.unknown key layout.keys)

/-- Read a proc; the flag of its class is the only field that has to be there. -/
def read (value : Toml) : Except FieldFault (String × ProcEntry) := do
  let entry ← Entry.readFields .procEntry layout ⟨none, [], [], none, none, none⟩ field value
  match entry.className with
  | some className => .ok (className, entry)
  | none => .error (.missing "class")

end ProcEntry

/-- The fields of a class or a subnet. -/
structure ClassEntry where
  vars : List (String × Toml)
  presets : List (String × Toml)
  polyLimit : Option Nat
  network : Option (List (String × Toml))

namespace ClassEntry

def layout : Entry.Layout :=
  [("vars", false), ("presets", false), ("poly_limit_cnt", true), ("network", true)]

def field (entry : ClassEntry) (key : String) (value : Toml) : Except FieldFault ClassEntry :=
  match key with
  | "vars" => (Entry.readTable value).map fun table => { entry with vars := table }
  | "presets" => (Entry.readTable value).map fun table => { entry with presets := table }
  | "poly_limit_cnt" =>
      (Entry.readCount value).map fun count => { entry with polyLimit := some count }
  | "network" => (Entry.readTable value).map fun table => { entry with network := some table }
  | _ => .error (.unknown key layout.keys)

def read (value : Toml) : Except FieldFault ClassEntry :=
  Entry.readFields .classBody layout ⟨[], [], none, none⟩ field value

end ClassEntry

/-- The fields of a variable. -/
structure VariableEntry where
  doc : Option String
  type : Option String
  flags : List String
  value : Option Toml
  target : Option String

namespace VariableEntry

def layout : Entry.Layout :=
  [("doc", true), ("type", true), ("flags", false), ("value", true), ("proxy", true)]

def field (entry : VariableEntry) (key : String) (value : Toml) :
    Except FieldFault VariableEntry :=
  match key with
  | "doc" => (Entry.readText value).map fun text => { entry with doc := some text }
  | "type" => (Entry.readText value).map fun text => { entry with type := some text }
  | "flags" => (Entry.readTexts value).map fun texts => { entry with flags := texts }
  | "value" => .ok { entry with value := some value }
  | "proxy" => (Entry.readText value).map fun text => { entry with target := some text }
  | _ => .error (.unknown key layout.keys)

def read (value : Toml) : Except FieldFault VariableEntry :=
  Entry.readFields .variableEntry layout ⟨none, none, [], none, none⟩ field value

end VariableEntry

end SignalNet
