import SignalNet.Toml.Moment

/-!
Contract: the data of a configuration text.

A tree is a scalar, a list of trees, or a table: entries with distinct keys, in
the order in which they were written. A plain tree holds no dates and times; their
texts stand in their place.
-/

set_option autoImplicit false

namespace SignalNet

/-- A configuration value. -/
inductive Toml where
  | boolean (b : Bool)
  | integer (n : Int64)
  | float (x : Float)
  | string (text : String)
  | datetime (moment : Moment)
  | array (items : List Toml)
  | table (entries : List (String × Toml))
deriving Inhabited

namespace Toml

/-- The kinds of configuration values. -/
inductive Kind where
  | boolean
  | integer
  | float
  | string
  | datetime
  | array
  | table
deriving DecidableEq, Repr, Inhabited

def Kind.label : Kind → String
  | boolean => "boolean"
  | integer => "integer"
  | float => "float"
  | string => "string"
  | datetime => "datetime"
  | array => "array"
  | table => "table"

def kind : Toml → Kind
  | boolean _ => .boolean
  | integer _ => .integer
  | float _ => .float
  | string _ => .string
  | datetime _ => .datetime
  | array _ => .array
  | table _ => .table

mutual

/-- The value with a text in the place of every date and time. -/
def plain : Toml → Toml
  | boolean b => .boolean b
  | integer n => .integer n
  | float x => .float x
  | string text => .string text
  | datetime moment => .string moment.text
  | array items => .array (plainItems items)
  | table entries => .table (plainEntries entries)

/-- The items with a text in the place of every date and time. -/
def plainItems : List Toml → List Toml
  | [] => []
  | item :: rest => item.plain :: plainItems rest

/-- The entries with a text in the place of every date and time. -/
def plainEntries : List (String × Toml) → List (String × Toml)
  | [] => []
  | (key, value) :: rest => (key, value.plain) :: plainEntries rest

end

def lookup (entries : List (String × Toml)) (key : String) : Option Toml :=
  (entries.find? (·.1 == key)).map (·.2)

def without (entries : List (String × Toml)) (key : String) : List (String × Toml) :=
  entries.filter (·.1 != key)

end Toml

end SignalNet
