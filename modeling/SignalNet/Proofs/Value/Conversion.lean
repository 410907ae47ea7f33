import SignalNet.Value.Literal

/-!
Contract: what conversions promise.

A successful conversion yields a value of the wanted type, storing a value in a place
is the conversion to the type of the place, and a conversion is refused as a mismatch
exactly between types that do not belong together. A place that refuses a value is left
as it was.
-/

set_option autoImplicit false

namespace SignalNet

namespace AudioBlock

theorem samples_refill (block : AudioBlock) {samples : Array Float32}
    (fits : block.samples.size = samples.size) : (block.refill samples fits).samples = samples := by
  apply Array.ext
  · simp [refill, fits]
  · intro position _ _
    simp [refill]

/-- Copying from a block yields that block, whatever was there before. -/
theorem copyFrom_eq (block source : AudioBlock) : block.copyFrom source = source := by
  have channelsEq : (block.copyFrom source).channels = source.channels :=
    block.reshape_channels source.channels source.frames
  have framesEq : (block.copyFrom source).frames = source.frames :=
    block.reshape_frames source.channels source.frames
  have samplesEq : (block.copyFrom source).samples = source.samples := samples_refill _ _
  cases source
  simp only [copyFrom, refill] at channelsEq framesEq samplesEq ⊢
  simp only [mk.injEq]
  exact ⟨channelsEq, framesEq, samplesEq⟩

end AudioBlock

namespace Value

theorem type_zero (type : ValueType) : (zero type).type = type := by
  cases type <;> rfl

/-! ## Types of results -/

theorem type_of_ofInt? {n : Int} {value : Value} (found : ofInt? n = some value) :
    value.type = .int := by
  unfold ofInt? at found
  split at found
  · cases found
    rfl
  · cases found

theorem type_of_ofNat? {n : Int} {value : Value} (found : ofNat? n = some value) :
    value.type = .uint := by
  unfold ofNat? at found
  split at found
  · cases found
    rfl
  · cases found

theorem getD_error_eq_ok {found : Option Value} {fault : ValueError} {value : Value} :
    (found.map Except.ok).getD (.error fault) = .ok value ↔ found = some value := by
  cases found <;> simp

theorem type_of_ofNumber {type : ValueType} {x : Float} {value : Value}
    (converted : ofNumber type x = .ok value) : value.type = type := by
  cases type with
  | bool | float | double =>
      cases converted
      rfl
  | int =>
      obtain ⟨n, -, held⟩ := Option.bind_eq_some_iff.mp (getD_error_eq_ok.mp converted)
      exact type_of_ofInt? held
  | uint =>
      obtain ⟨n, -, held⟩ := Option.bind_eq_some_iff.mp (getD_error_eq_ok.mp converted)
      exact type_of_ofNat? held
  | string | audio | midi => cases converted

theorem type_of_convert {value result : Value} {type : ValueType}
    (converted : value.convert type = .ok result) : result.type = type := by
  unfold convert at converted
  split at converted
  · rename_i same
    cases converted
    exact same
  · split at converted
    · split at converted
      · exact type_of_ofNumber converted
      · cases converted
    · cases converted

end Value

theorem Literal.type_of_toValue {literal : Literal} {type : ValueType} {value : Value}
    (converted : literal.toValue type = .ok value) : value.type = type := by
  cases literal with
  | bool b => exact Value.type_of_convert converted
  | int n =>
      cases type with
      | int => exact Value.type_of_ofInt? (Value.getD_error_eq_ok.mp converted)
      | uint => exact Value.type_of_ofNat? (Value.getD_error_eq_ok.mp converted)
      | bool | float | double | string | audio | midi => exact Value.type_of_ofNumber converted
  | float x => exact Value.type_of_ofNumber converted
  | string text =>
      rw [toValue] at converted
      by_cases isText : type = .string
      · rw [if_pos isText] at converted
        cases converted
        exact isText.symm
      · rw [if_neg isText] at converted
        cases converted
  | list items => cases converted

/-! ## Refused conversions -/

namespace Value

theorem number?_isSome (value : Value) : value.number?.isSome = value.type.isScalar := by
  cases value <;> rfl

theorem ofNumber_ne_mismatch {type : ValueType} (scalar : type.isScalar = true) (x : Float)
    (expected : ValueType) (found : Misfit) :
    ofNumber type x ≠ .error (.mismatch expected found) := by
  cases type with
  | bool | float | double => intro refused; cases refused
  | int =>
      unfold ofNumber
      cases (Number.nearestInt? x).bind ofInt? <;> simp
  | uint =>
      unfold ofNumber
      cases (Number.nearestInt? x).bind ofNat? <;> simp
  | string | audio | midi => cases scalar

/-- A conversion is no mismatch exactly to the type itself and between scalars. -/
theorem convert_ne_mismatch_iff (value : Value) (type : ValueType) :
    (∀ expected found, value.convert type ≠ .error (.mismatch expected found)) ↔
      value.type = type ∨ value.type.isScalar = true ∧ type.isScalar = true := by
  unfold convert
  by_cases same : value.type = type
  · simp [same]
  · rw [if_neg same]
    cases number : value.number? with
    | none =>
        have notScalar : value.type.isScalar = false := by
          rw [← number?_isSome, number, Option.isSome_none]
        simp [same, notScalar]
    | some x =>
        have scalar : value.type.isScalar = true := by
          rw [← number?_isSome, number, Option.isSome_some]
        by_cases wanted : type.isScalar = true
        · simp only [scalar, wanted, and_self, or_true, iff_true]
          exact ofNumber_ne_mismatch wanted x
        · simp [same, wanted]

/-! ## Places -/

theorem convert_self (value : Value) : value.convert value.type = .ok value :=
  if_pos rfl

/-- A place keeps what it holds if the value does not convert to its type, and holds the converted
value otherwise. The values that are not converted are of the type of the place already. -/
theorem overwrite_eq_convert (place source : Value) :
    place.overwrite source =
      match source.convert place.type with
      | .ok converted => (converted, .ok ())
      | .error fault => (place, .error fault) := by
  unfold overwrite
  split
  · rename_i block copied
    have same : (audio copied).convert (audio block).type = .ok (audio copied) :=
      convert_self (audio copied)
    rw [same, AudioBlock.copyFrom_eq]
  · rename_i old messages
    have same : (midi messages).convert (midi old).type = .ok (midi messages) :=
      convert_self (midi messages)
    rw [same]
  · rename_i old text
    have same : (string text).convert (string old).type = .ok (string text) :=
      convert_self (string text)
    rw [same]
  · rfl

/-- Overwriting a place is converting the value to the type of the place. It succeeds exactly if the
conversion does, and the place then holds the converted value and nothing of what it held before. It
is refused for the fault of the conversion, and the place is then as it was. -/
theorem overwriting_is_conversion (place source : Value) :
    (∀ stored, place.overwrite source = (stored, .ok ()) ↔
      source.convert place.type = .ok stored) ∧
    ∀ stored fault, place.overwrite source = (stored, .error fault) ↔
      stored = place ∧ source.convert place.type = .error fault := by
  rw [overwrite_eq_convert]
  cases source.convert place.type with
  | ok converted => simp
  | error refusal => simp [eq_comm]

/-- Storing a value is converting it to the type of the place. -/
theorem assign_eq_convert (place source : Value) :
    place.assign source = source.convert place.type := by
  rw [assign, overwrite_eq_convert]
  cases source.convert place.type <;> rfl

end Value

end SignalNet
