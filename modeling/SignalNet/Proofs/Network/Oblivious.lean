import SignalNet.Proofs.Network.Places

/-!
Contract: operations that take no notice of the values they meet.

Two stores are alike if they have the same places, with values of the same types. An
operation is oblivious if, from stores that are alike, it has the same outcome, and each
place is left alone in both or holds the same value afterwards in both. Where an oblivious
operation is done twice, the first store and the one in between are alike. So the second
time changes no place, whatever the places held at first.

Owns: `Store.Alike`, `Store.InStep`, `Store.Oblivious`, how oblivious operations compose,
that they are idempotent (`Oblivious.again`), and that a write is one.
-/

set_option autoImplicit false

namespace SignalNet.Store

variable {P : Type}

/-! ## Stores that are alike -/

/-- Two stores have the same places, with values of the same types. -/
def Alike (left right : Store P) : Prop :=
  ∀ terminal ch,
    (left.place? terminal ch).map Value.type = (right.place? terminal ch).map Value.type

/-- What two runs did that started from two stores: each place was left alone in both, or
holds the same value after both. -/
def InStep (left right leftAfter rightAfter : Store P) : Prop :=
  ∀ terminal ch,
    (leftAfter.place? terminal ch = left.place? terminal ch ∧
        rightAfter.place? terminal ch = right.place? terminal ch) ∨
      leftAfter.place? terminal ch = rightAfter.place? terminal ch

variable {left right leftMiddle rightMiddle leftAfter rightAfter : Store P}

theorem Alike.symm (alike : left.Alike right) : right.Alike left :=
  fun terminal ch => (alike terminal ch).symm

theorem Alike.isSome_place? (alike : left.Alike right) (terminal : Terminal) (ch : Nat) :
    (left.place? terminal ch).isSome = (right.place? terminal ch).isSome := by
  rw [← Option.isSome_map (f := Value.type), alike terminal ch, Option.isSome_map]

theorem Alike.channelCount_le (alike : left.Alike right) (terminals : List Terminal) :
    left.channelCount terminals ≤ right.channelCount terminals := by
  cases terminals with
  | nil => exact Nat.le_refl 0
  | cons terminal rest =>
      refine Nat.le_of_not_lt fun further => ?_
      have there := (left.lt_channelCount_iff _ _).mp further
      rw [value?_cons, alike.isSome_place?, ← value?_cons, ← lt_channelCount_iff] at there
      exact Nat.lt_irrefl _ there

theorem Alike.channelCount_eq (alike : left.Alike right) (terminals : List Terminal) :
    left.channelCount terminals = right.channelCount terminals :=
  Nat.le_antisymm (alike.channelCount_le terminals) (alike.symm.channelCount_le terminals)

theorem Written.alike [Processor P] {reached : Terminal → Prop} {start after : Store P}
    (written : Written reached start after) : after.Alike start :=
  written.place?_type

theorem InStep.refl (left right : Store P) : InStep left right left right :=
  fun _ _ => .inl ⟨rfl, rfl⟩

theorem InStep.trans (first : InStep left right leftMiddle rightMiddle)
    (second : InStep leftMiddle rightMiddle leftAfter rightAfter) :
    InStep left right leftAfter rightAfter := by
  intro terminal ch
  rcases second terminal ch with ⟨leftKept, rightKept⟩ | same
  · rw [leftKept, rightKept]
    exact first terminal ch
  · exact .inr same

theorem InStep.alike (inStep : InStep left right leftAfter rightAfter)
    (alike : left.Alike right) : leftAfter.Alike rightAfter := by
  intro terminal ch
  rcases inStep terminal ch with ⟨leftKept, rightKept⟩ | same
  · rw [leftKept, rightKept, alike terminal ch]
  · rw [same]

/-! ## Oblivious operations -/

/-- From stores that are alike, an operation has the same outcome and goes on in step. -/
def Oblivious {α : Type} (operation : Store P → Store P × α) : Prop :=
  ∀ left right : Store P, left.Alike right → (operation left).2 = (operation right).2 ∧
    InStep left right (operation left).1 (operation right).1

namespace Oblivious

variable {α β γ : Type} {first operation : Store P → Store P × α} {next : Store P → Store P × β}

theorem idle (outcome : α) : Oblivious fun store : Store P => (store, outcome) :=
  fun left right _ => ⟨rfl, .refl left right⟩

theorem map (oblivious : Oblivious operation) (f : α → β) :
    Oblivious fun store => ((operation store).1, f (operation store).2) := by
  intro left right alike
  obtain ⟨same, inStep⟩ := oblivious left right alike
  exact ⟨congrArg f same, inStep⟩

/-- One operation after the other, with an outcome that joins the two outcomes. -/
theorem andThen (firstOblivious : Oblivious first) (nextOblivious : Oblivious next)
    (join : α → β → γ) :
    Oblivious fun store =>
      ((next (first store).1).1, join (first store).2 (next (first store).1).2) := by
  intro left right alike
  obtain ⟨same, inStep⟩ := firstOblivious left right alike
  obtain ⟨alsoSame, further⟩ := nextOblivious _ _ (inStep.alike alike)
  exact ⟨congrArg₂ join same alsoSame, inStep.trans further⟩

/-- An oblivious operation that keeps the places and their types has the same outcome when it
is done again, and then changes no place. -/
theorem again (oblivious : Oblivious operation) {store : Store P}
    (keeps : (operation store).1.Alike store) :
    (operation (operation store).1).2 = (operation store).2 ∧ ∀ terminal ch,
      (operation (operation store).1).1.place? terminal ch =
        (operation store).1.place? terminal ch := by
  obtain ⟨same, inStep⟩ := oblivious store (operation store).1 keeps.symm
  refine ⟨same.symm, fun terminal ch => ?_⟩
  rcases inStep terminal ch with ⟨-, kept⟩ | equal
  · exact kept
  · exact equal.symm

end Oblivious

/-- Completed writes of one value to stores with the same places leave the same in the places that
they reach. -/
theorem place?_write_of_alike [Processor P] {left right leftAfter rightAfter : Store P}
    (alike : left.Alike right) {notify : Bool} {ch : Nat} {source : Value}
    {terminals : List Terminal} {wrote alsoWrote : Bool}
    (leftDone : write notify ch source terminals left = (leftAfter, .ok wrote))
    (rightDone : write notify ch source terminals right = (rightAfter, .ok alsoWrote))
    {terminal : Terminal} (member : terminal ∈ terminals) :
    leftAfter.place? terminal ch = rightAfter.place? terminal ch := by
  have sameType := alike terminal ch
  cases present : left.place? terminal ch with
  | none =>
      have absent (store after : Store P)
          (done : (write notify ch source terminals store).1 = after)
          (nowhere : store.place? terminal ch = none) : after.place? terminal ch = none := by
        have stillAlike := (written_write notify ch source terminals store).alike terminal ch
        rwa [done, nowhere, Option.map_none, Option.map_eq_none_iff] at stillAlike
      rw [present, Option.map_none, eq_comm, Option.map_eq_none_iff] at sameType
      rw [absent left leftAfter (congrArg Prod.fst leftDone) present,
        absent right rightAfter (congrArg Prod.fst rightDone) sameType]
  | some place =>
      rw [present, Option.map_some, eq_comm, Option.map_eq_some_iff] at sameType
      obtain ⟨other, alsoPresent, isType⟩ := sameType
      obtain ⟨held, heldThere, converted⟩ := place?_write leftDone member present
      obtain ⟨further, alsoThere, alsoConverted⟩ := place?_write rightDone member alsoPresent
      rw [isType, converted] at alsoConverted
      cases alsoConverted
      rw [heldThere, alsoThere]

/-- A write converts its value to the type of each place that it meets, and does not look at
the value there. -/
theorem oblivious_write [Processor P] (notify : Bool) (ch : Nat) (source : Value)
    (terminals : List Terminal) :
    Oblivious fun store : Store P => write notify ch source terminals store := by
  induction terminals with
  | nil => exact .idle _
  | cons head rest inductionHypothesis =>
      intro left right alike
      have sameType := alike head ch
      dsimp only
      cases present : left.place? head ch with
      | none =>
          rw [present, Option.map_none, eq_comm, Option.map_eq_none_iff] at sameType
          rw [write_cons_of_absent present, write_cons_of_absent sameType]
          exact inductionHypothesis left right alike
      | some place =>
          rw [present, Option.map_some, eq_comm, Option.map_eq_some_iff] at sameType
          obtain ⟨other, otherPresent, isType⟩ := sameType
          -- both places are of one type: either both take the value, or both refuse it
          cases converted : source.convert place.type with
          | error fault =>
              rw [write_cons_of_refused present converted,
                write_cons_of_refused otherPresent (isType ▸ converted)]
              exact ⟨rfl, .refl left right⟩
          | ok held =>
              obtain ⟨leftNext, leftPlaces, leftWrite⟩ :=
                write_cons_of_stored notify rest present converted
              obtain ⟨rightNext, rightPlaces, rightWrite⟩ :=
                write_cons_of_stored notify rest otherPresent (isType ▸ converted)
              have first : InStep left right leftNext rightNext := by
                intro terminal channel
                rw [leftPlaces, rightPlaces]
                by_cases here : terminal = head ∧ channel = ch
                · simp only [if_pos here, or_true]
                · simp only [if_neg here, and_self, true_or]
              obtain ⟨same, further⟩ := inductionHypothesis _ _ (first.alike alike)
              dsimp only at same further
              rw [leftWrite, rightWrite, same]
              exact ⟨rfl, first.trans further⟩

end SignalNet.Store
