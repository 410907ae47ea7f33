/-!
Contract: the types that a variable can be declared with.

Owns: the type names, their written labels, and the split into numbers,
switches, text and signals.
-/

set_option autoImplicit false

namespace SignalNet

/-- The declared type of a variable. -/
inductive ValueType where
  | bool
  | int
  | uint
  | float
  | double
  | string
  | audio
  | midi
deriving DecidableEq, Repr, Inhabited

namespace ValueType

def label : ValueType → String
  | .bool => "bool"
  | .int => "int"
  | .uint => "uint"
  | .float => "float"
  | .double => "double"
  | .string => "string"
  | .audio => "audio"
  | .midi => "midi"

/-- Read a type label. Sample rates, samples and coefficients are single-precision
numbers; fine times are double-precision numbers. -/
def ofLabel? : String → Option ValueType
  | "bool" => some .bool
  | "int" => some .int
  | "uint" => some .uint
  | "float" => some .float
  | "srate" => some .float
  | "sample" => some .float
  | "coeff" => some .float
  | "double" => some .double
  | "ftime" => some .double
  | "string" => some .string
  | "audio" => some .audio
  | "midi" => some .midi
  | _ => none

/-- The types that blend by arithmetic. -/
def isNumeric : ValueType → Bool
  | .int | .uint | .float | .double => true
  | .bool | .string | .audio | .midi => false

/-- The types that hold one number or one switch. -/
def isScalar (type : ValueType) : Bool := type.isNumeric || type == .bool

/-- The types that carry a signal, which no preset can set. -/
def isSignal : ValueType → Bool
  | .audio | .midi => true
  | .bool | .int | .uint | .float | .double | .string => false

end ValueType

end SignalNet
