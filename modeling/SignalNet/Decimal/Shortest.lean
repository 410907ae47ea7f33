/-!
Contract: the fewest decimal digits that identify a binary floating-point number.

A positive finite number `mantissa * 2 ^ exponent` stands for an interval of
reals: those that round to it. Digits are tried on ever finer decimal grids, and
the first grid with a point in the interval wins. Of two such points the nearer
is taken, and an exact tie goes to the larger.

Everything is decided by comparing whole numbers; no floating-point operation
takes part.
-/

set_option autoImplicit false

namespace SignalNet.Decimal

open Float.Model

/-- A positive binary number `mantissa * 2 ^ exponent` of some format. -/
structure Binary where
  mantissa : Nat
  exponent : Int
  /-- The gap to the number below is half the gap to the number above. -/
  narrowBelow : Bool
deriving Repr, DecidableEq

/-- A decimal number `digits * 10 ^ exponent`. -/
structure Digits where
  digits : Nat
  exponent : Int
deriving Repr, DecidableEq

/-- Compare `a * 10 ^ i` with `b * 2 ^ j`. -/
def compareScaled (a : Nat) (i : Int) (b : Nat) (j : Int) : Ordering :=
  compare ((a * Nat.pow 10 i.toNat) <<< (-j).toNat) ((b * Nat.pow 10 (-i).toNat) <<< j.toNat)

/-- A canonical mantissa and exponent of a format. The gap below is narrow at the
least normal mantissa of every exponent but the smallest. -/
def Binary.ofFormat (format : Format) (mantissa : Nat) (exponent : Int) : Binary :=
  ⟨mantissa, exponent,
    mantissa == 1 <<< format.mantissaBitsWithoutImplicit && format.minExponent < exponent⟩

/-- Whether a decimal lies among the reals that round to the number: the ends of
the interval belong to it exactly when the mantissa is even. -/
def Binary.readsBack (x : Binary) (d : Digits) : Bool :=
  let low := if x.narrowBelow then 4 * x.mantissa - 1 else 4 * x.mantissa - 2
  let high := 4 * x.mantissa + 2
  let closed := x.mantissa % 2 == 0
  let aboveLow := compareScaled d.digits d.exponent low (x.exponent - 2)
  let belowHigh := compareScaled d.digits d.exponent high (x.exponent - 2)
  (aboveLow == .gt || (closed && aboveLow == .eq)) &&
    (belowHigh == .lt || (closed && belowHigh == .eq))

/-- Raise `k` while the number is at least `10 ^ k`, at most `steps` times. -/
def Binary.raiseScale (x : Binary) : Nat → Int → Int
  | 0, k => k
  | steps + 1, k =>
      if compareScaled 1 k x.mantissa x.exponent == .gt then k
      else x.raiseScale steps (k + 1)

/-- The least `k` with the number below `10 ^ k`. The binary logarithm gives an
estimate that is never too large and at most two too small. -/
def Binary.scale (x : Binary) : Int :=
  let bits : Int := x.mantissa.log2 + x.exponent
  x.raiseScale 6 (Int.fdiv (bits * 30103) 100000 - 1)

/-- The number divided by `10 ^ k`, rounded down. -/
def Binary.quotient (x : Binary) (k : Int) : Nat :=
  ((x.mantissa * Nat.pow 10 (-k).toNat) <<< x.exponent.toNat) /
    (Nat.pow 10 k.toNat <<< (-x.exponent).toNat)

/-- The point of the grid `10 ^ k` that reads back, the nearer one first. -/
def Binary.onGrid (x : Binary) (k : Int) : Option Digits :=
  let below : Digits := ⟨x.quotient k, k⟩
  let above : Digits := ⟨below.digits + 1, k⟩
  match x.readsBack below, x.readsBack above with
  | false, false => none
  | true, false => some below
  | false, true => some above
  | true, true =>
      if compareScaled (2 * below.digits + 1) k x.mantissa (x.exponent + 1) == .gt then
        some below
      else some above

/-- Move trailing zeros of the digits into the exponent, at most `steps` of them. -/
def Digits.strip : Nat → Digits → Digits
  | 0, d => d
  | steps + 1, d =>
      if d.digits ≠ 0 ∧ d.digits % 10 = 0 then
        Digits.strip steps ⟨d.digits / 10, d.exponent + 1⟩
      else d

def Binary.exactDigits (x : Binary) : Digits :=
  if 0 ≤ x.exponent then ⟨x.mantissa <<< x.exponent.toNat, 0⟩
  else ⟨x.mantissa * Nat.pow 5 (-x.exponent).toNat, x.exponent⟩

/-- The fewest digits that read back. Seventeen always suffice in the two formats
in use; should no grid answer, the exact value does. -/
def Binary.shortest (x : Binary) : Digits :=
  let scale := x.scale
  let found := (List.range 17).findSome? fun count => x.onGrid (scale - (count + 1 : Nat))
  Digits.strip 20 (found.getD x.exactDigits)

end SignalNet.Decimal
