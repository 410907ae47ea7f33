import SignalNet.Decimal.Shortest

/-!
Contract: the written form of floating-point numbers.

Numbers are written positionally with the fewest digits that identify them,
never with an exponent. The record says whether whole numbers keep a point.
-/

set_option autoImplicit false

namespace SignalNet.Decimal

open Float.Model

/-- How numbers are laid out. -/
structure Notation where
  /-- Whole numbers end in `.0`. -/
  pointZero : Bool
deriving Repr, DecidableEq

/-- The notation of values in messages: `1`, `0.5`. -/
def plain : Notation := ⟨false⟩

/-- The notation that tells a floating-point number from an integer: `1.0`. -/
def pointed : Notation := ⟨true⟩

/-- Digits before the point, then those behind it. -/
def Digits.split (d : Digits) : String × String :=
  let text := toString d.digits
  if 0 ≤ d.exponent then (text ++ String.ofList (List.replicate d.exponent.toNat '0'), "")
  else
    let places := (-d.exponent).toNat
    let padded := List.replicate (places + 1 - text.length) '0' ++ text.toList
    (String.ofList (padded.take (padded.length - places)),
      String.ofList (padded.drop (padded.length - places)))

def Notation.layout (style : Notation) (d : Digits) : String :=
  match d.split with
  | (whole, "") => if style.pointZero then whole ++ ".0" else whole
  | (whole, fraction) => whole ++ "." ++ fraction

/-- Write a decoded number of a format. -/
def Notation.write (style : Notation) (format : Format) : UnpackedFloat → String
  | .notANumber => "NaN"
  | .infinity .positive => "inf"
  | .infinity .negative => "-inf"
  | .zero .positive => style.layout ⟨0, 0⟩
  | .zero .negative => "-" ++ style.layout ⟨0, 0⟩
  | .finite .positive mantissa exponent _ =>
      style.layout (Binary.ofFormat format mantissa exponent).shortest
  | .finite .negative mantissa exponent _ =>
      "-" ++ style.layout (Binary.ofFormat format mantissa exponent).shortest

def Notation.double (style : Notation) (x : Float) : String :=
  style.write Format.binary64 x.toModel.unpack

/-- Write a single-precision number, with the digits that identify it among
single-precision numbers. -/
def Notation.single (style : Notation) (x : Float32) : String :=
  style.write Format.binary32 x.toModel.unpack

end SignalNet.Decimal
