/-!
Contract: exact conversions between binary floating-point numbers and integers.

Owns: rounding to single precision, widening to double precision, rounding to
the nearest integer with halves away from zero, saturating conversions to a
64-bit count, and the remainder of a floating-point division.

Every conversion decodes a number into sign, mantissa and binary exponent,
computes with whole numbers, and encodes the result with one rounding. Nothing
here depends on an operation that the kernel cannot evaluate.
-/

set_option autoImplicit false

namespace SignalNet.Number

open Float.Model

/-- Encode a decoded number that already fits double precision. -/
def ofUnpacked (number : UnpackedFloat) : Float :=
  .ofModel (Float.Model.pack number)

/-- Round to the nearest single-precision number, ties to an even mantissa. -/
def narrow (x : Float) : Float32 :=
  .ofModel (Float32.Model.pack (match x.toModel.unpack with
    | .finite sign mantissa exponent _ =>
        UnpackedFloat.round Format.binary32 sign mantissa exponent
    | special => special))

def widen (x : Float32) : Float :=
  ofUnpacked (match x.toModel.unpack with
    | .finite sign mantissa exponent _ =>
        UnpackedFloat.round Format.binary64 sign mantissa exponent
    | special => special)

/-- The value of `mantissa * 2 ^ exponent`, rounded to the nearest whole number, halves up. -/
def nearestNat (mantissa : Nat) (exponent : Int) : Nat :=
  if 0 ≤ exponent then mantissa <<< exponent.toNat
  else (2 * mantissa + (1 <<< (-exponent).toNat)) >>> ((-exponent).toNat + 1)

/-- The value of `mantissa * 2 ^ exponent`, rounded up to a whole number. -/
def ceilingNat (mantissa : Nat) (exponent : Int) : Nat :=
  if 0 ≤ exponent then mantissa <<< exponent.toNat
  else (mantissa + ((1 <<< (-exponent).toNat) - 1)) >>> (-exponent).toNat

/-- The nearest integer, halves away from zero; none for NaN and the infinities. -/
def nearestInt? (x : Float) : Option Int :=
  match x.toModel.unpack with
  | .notANumber => none
  | .infinity _ => none
  | .zero _ => some 0
  | .finite sign mantissa exponent _ => some (sign.apply (nearestNat mantissa exponent))

/-- The largest 64-bit count. -/
def maxCount : Nat := UInt64.size - 1

/-- Clamp a rounded magnitude into the 64-bit counts: NaN and negative numbers give zero. -/
def countOf (rounding : Nat → Int → Nat) (x : Float) : Nat :=
  match x.toModel.unpack with
  | .infinity .positive => maxCount
  | .finite .positive mantissa exponent _ => min (rounding mantissa exponent) maxCount
  | _ => 0

/-- Round to the nearest 64-bit count, clamping what is out of range. -/
def nearestCount (x : Float) : Nat := countOf nearestNat x

/-- Round up to a 64-bit count, clamping what is out of range. -/
def ceilingCount (x : Float) : Nat := countOf ceilingNat x

/-- Truncate to a 64-bit count, clamping what is out of range. -/
def truncatedCount (x : Float) : Nat := x.toUInt64.toNat

/-- The remainder of `x / y` with the sign of `x`, computed without rounding. -/
def remainder (x y : Float) : Float :=
  match x.toModel.unpack, y.toModel.unpack with
  | .notANumber, _ => ofUnpacked .notANumber
  | _, .notANumber => ofUnpacked .notANumber
  | .infinity _, _ => ofUnpacked .notANumber
  | _, .zero _ => ofUnpacked .notANumber
  | .zero _, _ => x
  | .finite .., .infinity _ => x
  | .finite sign mantissa exponent _, .finite _ divisor divisorExponent _ =>
      let common := min exponent divisorExponent
      let scaled := mantissa <<< (exponent - common).toNat
      let scaledDivisor := divisor <<< (divisorExponent - common).toNat
      let rest := scaled % scaledDivisor
      if rest = 0 then ofUnpacked (.zero sign)
      else ofUnpacked (UnpackedFloat.round Format.binary64 sign rest common)

/-- A weight counted as zero when it is negative or not a number. -/
def nonnegative (x : Float) : Float := if 0 < x then x else 0

end SignalNet.Number
