import Mathlib

/-!
Contract: what a number of weight zero adds to a sum of double-precision numbers.

A finite number has the product zero with zero, with one sign or the other, and neither zero
changes a sum that started from positive zero. An infinity or a NaN has the product NaN.

Owns: the products (`zero_mul_of_isFinite`), and the two places that such a product can have in
a weighted sum of two numbers, behind the other one or before it.
-/

set_option autoImplicit false

namespace SignalNet.Number

open Float.Model
open UnpackedFloat (Sign)

theorem pack_unpack (x : Float.Model) : Float.Model.pack x.unpack = x := by
  obtain ⟨bits, valid⟩ := x
  simp only [Float.Model.pack, Float.Model.unpack, Float.Model.mk.injEq]
  exact congrArg UInt64.ofBitVec (UnpackedFloat.pack_unpack_of_valid valid)

theorem add_eq (x y : Float) :
    x + y = .ofModel (Float.Model.pack
      (UnpackedFloat.add Format.binary64 x.toModel.unpack y.toModel.unpack)) := rfl

/-- The zero with a sign. -/
def signedZero (sign : Sign) : Float := .ofModel (Float.Model.pack (.zero sign))

theorem unpack_signedZero (sign : Sign) : (signedZero sign).toModel.unpack = .zero sign := by
  cases sign <;> rfl

theorem zero_mul_of_isFinite {x : Float} (finite : x.isFinite = true) :
    ∃ sign, 0 * x = signedZero sign := by
  have product : 0 * x = .ofModel (Float.Model.pack
    (UnpackedFloat.mul Format.binary64 (.zero .positive) x.toModel.unpack)) := rfl
  have isFinite : x.toModel.unpack.isFinite = true := finite
  rw [product]
  cases unpacked : x.toModel.unpack with
  | notANumber =>
      rw [unpacked] at isFinite
      cases isFinite
  | infinity sign =>
      rw [unpacked] at isFinite
      cases isFinite
  | zero sign => exact ⟨_, rfl⟩
  | finite sign mantissa exponent positive => exact ⟨_, rfl⟩

/-- A sum from zero on is never negative zero, so a further zero of either sign leaves it. -/
theorem zero_add_add_signedZero (x : Float) (sign : Sign) :
    0 + x + signedZero sign = 0 + x := by
  have sum : 0 + x = .ofModel (Float.Model.pack
    (UnpackedFloat.add Format.binary64 (.zero .positive) x.toModel.unpack)) := rfl
  cases unpacked : x.toModel.unpack with
  | notANumber =>
      rw [sum, unpacked]
      cases sign <;> rfl
  | infinity other =>
      rw [sum, unpacked]
      cases sign <;> cases other <;> rfl
  | zero other =>
      rw [sum, unpacked]
      cases sign <;> cases other <;> rfl
  | finite other mantissa exponent positive =>
      have repacked : Float.ofModel (Float.Model.pack
          (.finite other mantissa exponent positive)) = x := by
        rw [← unpacked, pack_unpack]
      have same : 0 + x = x := by
        rw [sum, unpacked]
        exact repacked
      rw [same, add_eq, unpacked, unpack_signedZero]
      exact repacked

/-- A finite number of weight zero behind another one. -/
theorem zero_add_add_zero_mul (y : Float) {x : Float} (finite : x.isFinite = true) :
    0 + y + 0 * x = 0 + y := by
  obtain ⟨sign, product⟩ := zero_mul_of_isFinite finite
  rw [product, zero_add_add_signedZero]

/-- A finite number of weight zero at the start of a sum. -/
theorem zero_add_zero_mul {x : Float} (finite : x.isFinite = true) : 0 + 0 * x = 0 := by
  obtain ⟨sign, product⟩ := zero_mul_of_isFinite finite
  rw [product]
  cases sign <;> rfl

end SignalNet.Number
