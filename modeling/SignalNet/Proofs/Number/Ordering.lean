import Mathlib.Data.Prod.Lex

/-!
Contract: the order of double-precision numbers.

A number that is not a NaN has a rank: its class from negative to positive infinity, and within
the finite numbers the exponent and the mantissa, counted downward for negative ones. One number
is at most another exactly where its rank is, so these numbers are in a total order, up to the
two zeros. A NaN is not comparable to anything.

Owns: ranks, and the laws of a total order for what has one (`le_total_of_not_isNaN`,
`le_trans_of_not_isNaN`).
-/

set_option autoImplicit false

namespace SignalNet.Number

open Float.Model

/-- The place of a decoded number in the order; a NaN has none. -/
def rank? : UnpackedFloat → Option (Int ×ₗ Int ×ₗ Int)
  | .notANumber => none
  | .infinity .negative => some (toLex (-2, toLex (0, 0)))
  | .finite .negative mantissa exponent _ => some (toLex (-1, toLex (-exponent, -mantissa)))
  | .zero _ => some (toLex (0, toLex (0, 0)))
  | .finite .positive mantissa exponent _ => some (toLex (1, toLex (exponent, mantissa)))
  | .infinity .positive => some (toLex (2, toLex (0, 0)))

/-- Finite numbers of one sign compare by exponent, then by mantissa. -/
theorem isLE_compare_iff (mantissa otherMantissa : Nat) (exponent otherExponent : Int) :
    ((compare exponent otherExponent).then (compare mantissa otherMantissa)).isLE = true ↔
      exponent < otherExponent ∨ exponent = otherExponent ∧ mantissa ≤ otherMantissa := by
  rw [Ordering.isLE_then_iff_or, Int.compare_eq_lt, Int.compare_eq_eq, Nat.isLE_compare]

theorem isGE_compare_iff (mantissa otherMantissa : Nat) (exponent otherExponent : Int) :
    ((compare exponent otherExponent).then (compare mantissa otherMantissa)).isGE = true ↔
      otherExponent < exponent ∨ exponent = otherExponent ∧ otherMantissa ≤ mantissa := by
  rw [← Ordering.isLE_swap, Ordering.swap_then, Int.compare_swap, Nat.compare_swap,
    isLE_compare_iff, eq_comm]

/-- Numbers compare as their ranks do. -/
theorem le_iff_rank_le {left right : UnpackedFloat} {rank other : Int ×ₗ Int ×ₗ Int}
    (leftRank : rank? left = some rank) (rightRank : rank? right = some other) :
    left.le right = true ↔ rank ≤ other := by
  rcases left with (_ | _) | _ | sign | ⟨_ | _, mantissa, exponent, positive⟩ <;>
    rcases right with (_ | _) | _ | sign | ⟨_ | _, otherMantissa, otherExponent, otherPositive⟩ <;>
    cases leftRank <;> cases rightRank
  -- Two infinities are ordered as their signs are; the signs are data, so this evaluates.
  case infinity.negative.infinity.negative => decide
  case infinity.negative.infinity.positive => decide
  case infinity.positive.infinity.negative => decide
  case infinity.positive.infinity.positive => decide
  all_goals
    dsimp only [UnpackedFloat.le, UnpackedFloat.compare]
    simp [Prod.Lex.toLex_le_toLex, isLE_compare_iff, isGE_compare_iff]

/-- Only a NaN has no rank. -/
theorem exists_rank {x : Float} (number : x.isNaN = false) :
    ∃ rank, rank? x.toModel.unpack = some rank := by
  have isNumber : x.toModel.unpack.isNaN = false := number
  cases unpacked : x.toModel.unpack with
  | notANumber =>
      rw [unpacked] at isNumber
      cases isNumber
  | infinity sign => cases sign <;> exact ⟨_, rfl⟩
  | zero sign => exact ⟨_, rfl⟩
  | finite sign mantissa exponent positive => cases sign <;> exact ⟨_, rfl⟩

theorem le_iff {x y : Float} : x ≤ y ↔ x.toModel.unpack.le y.toModel.unpack = true :=
  decide_eq_true_iff

/-- Numbers that are not NaN are comparable. -/
theorem le_total_of_not_isNaN {x y : Float} (first : x.isNaN = false) (second : y.isNaN = false) :
    x ≤ y ∨ y ≤ x := by
  obtain ⟨rank, isRank⟩ := exists_rank first
  obtain ⟨other, isOther⟩ := exists_rank second
  rw [le_iff, le_iff, le_iff_rank_le isRank isOther, le_iff_rank_le isOther isRank]
  exact le_total rank other

theorem le_trans_of_not_isNaN {x y z : Float} (first : x.isNaN = false)
    (second : y.isNaN = false) (third : z.isNaN = false) (lower : x ≤ y) (upper : y ≤ z) :
    x ≤ z := by
  obtain ⟨low, isLow⟩ := exists_rank first
  obtain ⟨middle, isMiddle⟩ := exists_rank second
  obtain ⟨high, isHigh⟩ := exists_rank third
  rw [le_iff, le_iff_rank_le isLow isMiddle] at lower
  rw [le_iff, le_iff_rank_le isMiddle isHigh] at upper
  rw [le_iff, le_iff_rank_le isLow isHigh]
  exact le_trans lower upper

end SignalNet.Number
