import SignalNet.Value.Basic

/-!
Contract: untyped constants of a description.

A literal is a scalar, which stands for every channel, or a list with one
literal per channel. It takes the declared type of a variable only when it is
assigned.

Owns: literals, and the ordered assignments of literals to variable labels that
arguments and presets are made of.
-/

set_option autoImplicit false

namespace SignalNet

/-- An untyped constant. -/
inductive Literal where
  | bool (b : Bool)
  | int (n : Int64)
  | float (x : Float)
  | string (text : String)
  | list (items : List Literal)
deriving Inhabited

namespace Literal

/-- The literal for one channel: an item of a list, a scalar itself. -/
def channel? : Literal → Nat → Option Literal
  | .list items, ch => items[ch]?
  | .bool b, _ => some (.bool b)
  | .int n, _ => some (.int n)
  | .float x, _ => some (.float x)
  | .string text, _ => some (.string text)

def listLength? : Literal → Option Nat
  | .list items => some items.length
  | .bool _ | .int _ | .float _ | .string _ => none

/-- The value of a type that a scalar stands for. Integers convert exactly where the
type is an integer type. -/
def toValue (literal : Literal) (type : ValueType) : Except ValueError Value :=
  match literal with
  | .bool b => (Value.bool b).convert type
  | .int n =>
      let excess : Except ValueError Value := .error (.outOfRange type (.integer n))
      match type with
      | .int => ((Value.ofInt? n.toInt).map Except.ok).getD excess
      | .uint => ((Value.ofNat? n.toInt).map Except.ok).getD excess
      | _ => Value.ofNumber type (Float.ofInt n.toInt)
  | .float x => Value.ofNumber type x
  | .string text =>
      if type = .string then .ok (.string text)
      else .error (.mismatch type (.value (.string text)))
  | .list _ => .error (.mismatch type .nestedList)

mutual

def display : Literal → String
  | .bool b => toString b
  | .int n => toString n.toInt
  | .float x => Decimal.plain.double x
  | .string text => Text.quoted text
  | .list items => "[" ++ String.intercalate ", " (displayItems items) ++ "]"

def displayItems : List Literal → List String
  | [] => []
  | item :: rest => item.display :: displayItems rest

end

end Literal

/-- Literals by variable label, in the order in which the labels first appeared. -/
structure Assignments where
  entries : List (String × Literal)
deriving Inhabited

namespace Assignments

def empty : Assignments := ⟨[]⟩

/-- Put an entry in its place, or at the end. -/
def insertEntry (label : String) (literal : Literal) :
    List (String × Literal) → List (String × Literal)
  | [] => [(label, literal)]
  | (present, old) :: rest =>
      if present = label then (present, literal) :: rest
      else (present, old) :: insertEntry label literal rest

/-- Add an assignment; one that is already there is replaced in its place. -/
def insert (body : Assignments) (label : String) (literal : Literal) : Assignments :=
  ⟨insertEntry label literal body.entries⟩

def ofList (entries : List (String × Literal)) : Assignments :=
  entries.foldl (fun body entry => body.insert entry.1 entry.2) empty

def get? (body : Assignments) (label : String) : Option Literal :=
  (body.entries.find? (·.1 == label)).map (·.2)

def labels (body : Assignments) : List String := body.entries.map (·.1)

def size (body : Assignments) : Nat := body.entries.length

end Assignments

end SignalNet
