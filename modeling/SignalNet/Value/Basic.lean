import SignalNet.Decimal.Notation
import SignalNet.Number.Exact
import SignalNet.Text.Quoted
import SignalNet.Value.Audio
import SignalNet.Value.Kind

/-!
Contract: typed values and the conversions between them.

A variable channel holds one value of its declared type. Numbers and switches
convert into each other, with rounding to the nearest integer and a range check;
text, audio and midi convert only to themselves.

Owns: values, their conversion, and the faults of a conversion.
-/

set_option autoImplicit false

namespace SignalNet

/-- A midi message of three bytes. -/
structure MidiMessage where
  status : UInt8
  first : UInt8
  second : UInt8
deriving DecidableEq, Repr, Inhabited

/-- One typed value. -/
inductive Value where
  | bool (b : Bool)
  | int (n : Int32)
  | uint (n : UInt32)
  | float (x : Float32)
  | double (x : Float)
  | string (text : String)
  | audio (block : AudioBlock)
  | midi (messages : List MidiMessage)
deriving DecidableEq, Inhabited

/-- What a type refused to hold. -/
inductive Misfit where
  | value (value : Value)
  | number (x : Float)
  | nestedList
deriving DecidableEq

/-- A number beyond the range of a type. -/
inductive Excess where
  | number (x : Float)
  | integer (n : Int64)
deriving DecidableEq

/-- Why a value could not take a type. -/
inductive ValueError where
  | mismatch (expected : ValueType) (found : Misfit)
  | outOfRange (type : ValueType) (value : Excess)
deriving DecidableEq

namespace Value

/-- The value that a variable of a type starts with. -/
def zero : ValueType → Value
  | .bool => .bool false
  | .int => .int 0
  | .uint => .uint 0
  | .float => .float 0
  | .double => .double 0
  | .string => .string ""
  | .audio => .audio (AudioBlock.silent 0 0)
  | .midi => .midi []

def type : Value → ValueType
  | .bool _ => .bool
  | .int _ => .int
  | .uint _ => .uint
  | .float _ => .float
  | .double _ => .double
  | .string _ => .string
  | .audio _ => .audio
  | .midi _ => .midi

/-- The numeric view of numbers and switches. -/
def number? : Value → Option Float
  | .bool b => some (if b then 1 else 0)
  | .int n => some (Float.ofInt n.toInt)
  | .uint n => some (Float.ofNat n.toNat)
  | .float x => some (Number.widen x)
  | .double x => some x
  | .string _ | .audio _ | .midi _ => none

/-- A signed integer value, if the number is in range. -/
def ofInt? (n : Int) : Option Value :=
  if Int32.minValue.toInt ≤ n ∧ n ≤ Int32.maxValue.toInt then some (.int (Int32.ofInt n))
  else none

/-- An unsigned integer value, if the number is in range. -/
def ofNat? (n : Int) : Option Value :=
  if 0 ≤ n ∧ n < UInt32.size then some (.uint (UInt32.ofNat n.toNat)) else none

/-- The value of a type that stands for a number. Integers take the nearest, halves
away from zero; a switch is on for everything but zero. -/
def ofNumber (type : ValueType) (x : Float) : Except ValueError Value :=
  match type with
  | .bool => .ok (.bool (x != 0))
  | .int => (((Number.nearestInt? x).bind ofInt?).map Except.ok).getD
      (.error (.outOfRange type (.number x)))
  | .uint => (((Number.nearestInt? x).bind ofNat?).map Except.ok).getD
      (.error (.outOfRange type (.number x)))
  | .float => .ok (.float (Number.narrow x))
  | .double => .ok (.double x)
  | .string | .audio | .midi => .error (.mismatch type (.number x))

/-- Convert a value to a type. A value of the type itself stays as it is. -/
def convert (value : Value) (type : ValueType) : Except ValueError Value :=
  if value.type = type then .ok value
  else match value.number? with
    | some x => if type.isScalar then ofNumber type x else .error (.mismatch type (.value value))
    | none => .error (.mismatch type (.value value))

/-- Overwrite a place by a value, keeping the type of the place: what the place holds
then, and whether the value was refused. Audio, midi and text go into the store that the
place has, and all else is converted first. -/
def overwrite (place source : Value) : Value × Except ValueError Unit :=
  match place, source with
  | .audio block, .audio source => (.audio (block.copyFrom source), .ok ())
  | .midi _, .midi messages => (.midi messages, .ok ())
  | .string _, .string text => (.string text, .ok ())
  | place, source =>
      match source.convert place.type with
      | .ok converted => (converted, .ok ())
      | .error fault => (place, .error fault)

/-- What a place holds after a value was stored in it, if the value was not refused. -/
def assign (place source : Value) : Except ValueError Value :=
  let (stored, outcome) := place.overwrite source
  outcome.map fun _ => stored

def describe : Value → String
  | .bool b => "bool " ++ toString b
  | .int n => "int " ++ toString n.toInt
  | .uint n => "uint " ++ toString n.toNat
  | .float x => "float " ++ Decimal.plain.single x
  | .double x => "double " ++ Decimal.plain.double x
  | .string text => "string " ++ Text.quoted text
  | .audio _ => "audio"
  | .midi _ => "midi"

end Value

def Misfit.describe : Misfit → String
  | .value held => held.describe
  | .number x => "number " ++ Decimal.plain.double x
  | .nestedList => "nested list"

def Excess.describe : Excess → String
  | .number x => Decimal.plain.double x
  | .integer n => toString n.toInt

def ValueError.message : ValueError → String
  | .mismatch expected found => "cannot convert " ++ found.describe ++ " to " ++ expected.label
  | .outOfRange type value => "value " ++ value.describe ++ " out of range for " ++ type.label

end SignalNet
