import Mathlib
import SignalNet.Number.Exact

/-!
Contract: double precision holds whole numbers exactly, below two to the power of 53.

Such a number has at most 53 binary digits, so the mantissa of 53 digits has room for it: it is
shifted to the left until it fills the mantissa, and truncation shifts it back. Nothing is rounded
on the way, because only zeros are shifted in and out.

Owns: mantissas that fill their place (`round_of_filled`, `unpack_pack_of_filled`), and the way
of a whole number there and back (`truncatedCount_ofNat`).
-/

set_option autoImplicit false

namespace SignalNet.Number

open Float.Model
open UnpackedFloat (Sign ExtendedMantissa)

/-! ## Shifts -/

/-- Zeros are shifted out without a trace. -/
theorem shiftRight_shiftLeft (mantissa count : Nat) :
    (⟨mantissa <<< count, false, false⟩ : ExtendedMantissa) >>> count =
      ⟨mantissa, false, false⟩ := by
  change Nat.repeat ExtendedMantissa.shiftRightOne count _ = _
  induction count generalizing mantissa with
  | zero => rfl
  | succ count inductionHypothesis =>
      have shifted : mantissa <<< (count + 1) = (2 * mantissa) <<< count := by
        rw [Nat.shiftLeft_succ_inside]
      rw [Nat.repeat, shifted, inductionHypothesis, ExtendedMantissa.shiftRightOne]
      simp

theorem log2_shiftLeft {mantissa : Nat} (positive : 0 < mantissa) (count : Nat) :
    (mantissa <<< count).log2 = mantissa.log2 + count := by
  rw [Nat.shiftLeft_eq, Nat.log2_eq_iff (by positivity), Nat.pow_add, Nat.add_right_comm,
    Nat.pow_add 2 (_ + 1)]
  exact ⟨Nat.mul_le_mul_right _ (Nat.log2_self_le positive.ne'),
    Nat.mul_lt_mul_of_pos_right Nat.lt_log2_self (by positivity)⟩

/-! ## Filled mantissas -/

section

variable {mantissa : Nat} {exponent : Int}

theorem targetExponent_eq (mantissa : Nat) (exponent : Int)
    (inRange : -1022 ≤ mantissa.log2 + exponent) :
    Format.binary64.targetExponent (totalExponent mantissa exponent) =
      mantissa.log2 + exponent - 52 := by
  simp only [Format.targetExponent, totalExponent, Format.mantissaBits, Format.minExponent]
  omega

theorem shiftToTargetExponent_shiftLeft (exponent : Int) (filled : mantissa.log2 = 52) (count : Nat)
    (inRange : -1074 ≤ exponent) :
    UnpackedFloat.shiftToTargetExponent Format.binary64 (mantissa <<< count) exponent .exact =
      (⟨mantissa, false, false⟩, exponent + count) := by
  have positive : 0 < mantissa := by
    refine Nat.pos_of_ne_zero ?_
    rintro rfl
    cases filled
  have isTarget := targetExponent_eq (mantissa <<< count) exponent
    (by rw [log2_shiftLeft positive]; omega)
  rw [log2_shiftLeft positive, filled] at isTarget
  have amount : (Format.binary64.targetExponent (totalExponent (mantissa <<< count) exponent) -
      exponent).toNat = count := by
    rw [isTarget]
    omega
  rw [UnpackedFloat.shiftToTargetExponent, UnpackedFloat.shiftToExponent, amount]
  exact Prod.ext (shiftRight_shiftLeft mantissa count) rfl

/-- Rounding drops the zeros behind a mantissa that fills its place, and nothing else. -/
theorem roundWithAccuracy_of_filled (sign : Sign) (exponent : Int)
    (filled : mantissa.log2 = 52) (count : Nat) (inRange : -1074 ≤ exponent)
    (positive : 0 < mantissa) :
    UnpackedFloat.roundWithAccuracy Format.binary64 sign (mantissa <<< count) exponent .exact =
      .finite sign mantissa (exponent + count) positive := by
  have again := shiftToTargetExponent_shiftLeft (exponent + count) filled 0 (by omega)
  rw [UnpackedFloat.roundWithAccuracy,
    shiftToTargetExponent_shiftLeft exponent filled count inRange]
  dsimp only [ExtendedMantissa.roundedMantissa, ExtendedMantissa.accuracy,
    UnpackedFloat.Accuracy.roundToNearestEven]
  rw [Nat.shiftLeft_zero] at again
  rw [again]
  simp [positive.ne']

theorem unpackSign_packComponents (sign : Sign) (biased : BitVec 11) (digits : BitVec 52) :
    Sign.ofBitVec (UnpackedFloat.unpackSign
      (UnpackedFloat.packComponents Format.binary64 sign biased digits)) = sign := by
  rw [UnpackedFloat.unpackSign, UnpackedFloat.packComponents, BitVec.extractLsb,
    BitVec.extractLsb'_append_eq_of_le (by decide), BitVec.extractLsb'_append_eq_of_le (by decide)]
  cases sign <;> rfl

/-- The leading digit of a filled mantissa is not encoded, and comes back. -/
theorem toNat_leadingDigit_append (filled : mantissa.log2 = 52) (positive : 0 < mantissa) :
    (1#1 ++ BitVec.ofNat 52 mantissa).toNat = mantissa := by
  obtain ⟨least, most⟩ := (Nat.log2_eq_iff positive.ne').mp filled
  rw [BitVec.toNat_append, ← Nat.shiftLeft_add_eq_or_of_lt (BitVec.isLt _), BitVec.toNat_ofNat,
    BitVec.toNat_ofNat]
  omega

/-- Decoding puts the leading digit in front, unless the exponent has an extreme encoding. -/
theorem unpack_packComponents (sign : Sign) {biased : Nat} (above : 0 < biased)
    (below : biased < 2047) (filled : mantissa.log2 = 52) (positive : 0 < mantissa) :
    UnpackedFloat.unpack Format.binary64 (UnpackedFloat.packComponents Format.binary64 sign
        (BitVec.ofNat 11 biased) (BitVec.ofNat 52 mantissa)) =
      .finite sign mantissa (biased - 1075) positive := by
  have kept : (BitVec.ofNat 11 biased).toNat = biased := by
    rw [BitVec.toNat_ofNat, Nat.mod_eq_of_lt (by omega)]
  have notOnes : BitVec.ofNat 11 biased ≠ -1#11 := by
    intro same
    have value : (BitVec.ofNat 11 biased).toNat = 2047 := congrArg BitVec.toNat same
    omega
  have notZeros : BitVec.ofNat 11 biased ≠ 0#11 := by
    intro same
    have value : (BitVec.ofNat 11 biased).toNat = 0 := congrArg BitVec.toNat same
    omega
  rw [UnpackedFloat.unpack]
  simp only [UnpackedFloat.unpackExponent_packComponents,
    UnpackedFloat.unpackMantissa_packComponents, unpackSign_packComponents, if_neg notOnes,
    if_neg notZeros, kept, toNat_leadingDigit_append filled positive]
  rfl

/-- A number with a filled mantissa survives its encoding. -/
theorem unpack_pack_of_filled (sign : Sign) (filled : mantissa.log2 = 52)
    (positive : 0 < mantissa) (above : -1074 ≤ exponent) (below : exponent ≤ 970) :
    (Float.Model.pack (.finite sign mantissa exponent positive)).unpack =
      .finite sign mantissa exponent positive := by
  have bias : exponent + Format.binary64.exponentBias +
      Format.binary64.mantissaBitsWithoutImplicit = exponent + 1075 :=
    Int.add_assoc exponent 1023 52
  have packed : UnpackedFloat.pack Format.binary64 (.finite sign mantissa exponent positive) =
      UnpackedFloat.packComponents Format.binary64 sign
        (BitVec.ofNat 11 (exponent + 1075).toNat) (BitVec.ofNat 52 mantissa) := by
    rw [UnpackedFloat.pack]
    simp only [bias, filled]
    rw [if_neg (by omega), if_pos (by decide)]
  change UnpackedFloat.unpack Format.binary64 (UnpackedFloat.pack Format.binary64 _) = _
  rw [packed, unpack_packComponents sign (by omega) (by omega) filled positive]
  congr 1
  omega

end

/-! ## Whole numbers -/

section

variable {n : Nat}

/-- Zeros behind a whole number fill the mantissa. -/
theorem log2_shiftLeft_fill (positive : 0 < n) (below : n < 2 ^ 53) :
    (n <<< (52 - n.log2)).log2 = 52 := by
  have short : n.log2 < 53 := (Nat.log2_lt positive.ne').mpr below
  rw [log2_shiftLeft positive]
  omega

theorem unpack_ofUInt64 (positive : 0 < n) (below : n < 2 ^ 53) :
    (Float.Model.ofUInt64 (UInt64.ofNat n)).unpack =
      .finite .positive (n <<< (52 - n.log2)) (n.log2 - 52)
        (Nat.shiftLeft_pos_iff.mpr positive) := by
  have short : n.log2 < 53 := (Nat.log2_lt positive.ne').mpr below
  have filled := log2_shiftLeft_fill positive below
  have isNat : (UInt64.ofNat n).toNat = n := UInt64.toNat_ofNat_of_lt' (below.trans (by decide))
  have target := targetExponent_eq n 0 (by omega)
  have lowered : UnpackedFloat.decreaseExponent n 0
      (Format.binary64.targetExponent (totalExponent n 0)) =
        (n <<< (52 - n.log2), (n.log2 : Int) - 52) := by
    rw [target, UnpackedFloat.decreaseExponent]
    have amount : ((0 : Int) - (n.log2 + 0 - 52)).toNat = 52 - n.log2 := by omega
    simp only [amount]
    congr 1
    omega
  have rounded : UnpackedFloat.ofUInt64 Format.binary64 (UInt64.ofNat n) =
      .finite .positive (n <<< (52 - n.log2)) (n.log2 - 52)
        (Nat.shiftLeft_pos_iff.mpr positive) := by
    have exact := roundWithAccuracy_of_filled .positive (n.log2 - 52) filled 0 (by omega)
      (Nat.shiftLeft_pos_iff.mpr positive)
    rw [UnpackedFloat.ofUInt64, isNat, UnpackedFloat.ofNat, UnpackedFloat.ofInt,
      UnpackedFloat.normalize, Int.compare_eq_gt.mpr (by omega)]
    simp only [Int.toNat_natCast, UnpackedFloat.round, lowered]
    rw [Nat.shiftLeft_zero] at exact
    rw [exact]
    simp
  rw [Float.Model.ofUInt64, rounded]
  exact unpack_pack_of_filled _ filled _ (by omega) (by omega)

/-- The number one as it is encoded. -/
def oneFloat : Float := .ofBits 0x3FF0000000000000

theorem unpack_oneFloat :
    oneFloat.toModel.unpack = .finite .positive (2 ^ 52) (-52) (by decide) := rfl

/-- The way of a whole number into double precision. -/
theorem unpack_ofNat (positive : 0 < n) (below : n < 2 ^ 53) :
    (Float.ofNat n).toModel.unpack = .finite .positive (n <<< (52 - n.log2)) (n.log2 - 52)
      (Nat.shiftLeft_pos_iff.mpr positive) := by
  have short : n.log2 < 53 := (Nat.log2_lt positive.ne').mpr below
  have filled := log2_shiftLeft_fill positive below
  -- a whole number is read as a decimal without decimals, so it is multiplied by one
  have product : Float.ofNat n = .ofModel (Float.Model.pack (UnpackedFloat.mul Format.binary64
      (Float.Model.ofUInt64 (UInt64.ofNat n)).unpack oneFloat.toModel.unpack)) := by
    change Float.ofScientific n false 0 = _
    rw [Float.ofScientific, dif_pos ⟨below, Nat.zero_le 22⟩]
    rfl
  have exact := roundWithAccuracy_of_filled (.positive * .positive) (n.log2 - 52 + -52) filled 52
    (by omega) (Nat.shiftLeft_pos_iff.mpr positive)
  rw [product, unpack_ofUInt64 positive below, unpack_oneFloat, UnpackedFloat.mul,
    ← Nat.shiftLeft_eq, exact]
  have same : (n.log2 : Int) - 52 + -52 + (52 : Nat) = n.log2 - 52 := by omega
  simp only [same]
  exact unpack_pack_of_filled _ filled _ (by omega) (by omega)

theorem truncatedCount_ofNat (below : n < 2 ^ 53) :
    truncatedCount (Float.ofNat n) = n := by
  rcases Nat.eq_zero_or_pos n with rfl | positive
  · rfl
  have short : n.log2 < 53 := (Nat.log2_lt positive.ne').mpr below
  have unshifted : UnpackedFloat.decreaseExponent (n <<< (52 - n.log2)) (n.log2 - 52) 0 =
      (n <<< (52 - n.log2), (n.log2 : Int) - 52) := by
    have amount : ((n.log2 : Int) - 52 - 0).toNat = 0 := by omega
    rw [UnpackedFloat.decreaseExponent, amount]
    simp
  have amount : (0 - ((n.log2 : Int) - 52)).toNat = 52 - n.log2 := by omega
  have truncated : UnpackedFloat.roundToInt .positive (n <<< (52 - n.log2)) (n.log2 - 52) = n := by
    rw [UnpackedFloat.roundToInt, unshifted]
    simp only [UnpackedFloat.shiftToExponent, amount]
    exact congrArg (fun shifted : ExtendedMantissa => Sign.positive.apply shifted.mantissa)
      (shiftRight_shiftLeft n (52 - n.log2))
  change ((Float.ofNat n).toModel.unpack.toUInt64).toNat = n
  rw [unpack_ofNat positive below, UnpackedFloat.toUInt64, UnpackedFloat.toInt, truncated,
    Int.toNat_natCast, UInt64.ofNatClamp, dif_pos (below.trans (by decide))]
  rfl

end

end SignalNet.Number
