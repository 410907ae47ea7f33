import SignalNet.Proofs.Variable.Bank

/-!
Contract: what of a bank no value can change.

The shape of a bank is its variables without the values in their channels. Whatever is
stored in a channel leaves the shape alone, so it is fixed once the bank is made. A bank is
its shape together with the values in its channels.

Owns: `Bank.shape`; `Bank.Filled`, what a bank can become by storing values, with one lemma for
every operation that does so; and the comparison of banks of one shape.
-/

set_option autoImplicit false

namespace SignalNet

/-- What is fixed about a variable: all but the values in its channels. -/
structure VariableShape where
  label : String
  type : ValueType
  flags : FlagSet
  channels : Nat
deriving DecidableEq

def Variable.shape (entry : Variable) : VariableShape :=
  ⟨entry.label, entry.type, entry.flags, entry.channels.length⟩

namespace Bank

def shape (bank : Bank) : List VariableShape := bank.vars.map Variable.shape

/-! ## Storing values -/

theorem shape_modify {bank : Bank} {var : Nat} {f : Variable → Variable}
    (keeps : ∀ entry, (f entry).shape = entry.shape) : (bank.modify var f).shape = bank.shape :=
  map_modify Variable.shape fun entry _ => keeps entry

theorem shape_set (bank : Bank) (var ch : Nat) (value : Value) :
    (bank.set var ch value).shape = bank.shape :=
  shape_modify fun entry => by rw [Variable.shape, Variable.shape, List.length_set]

/-- What a bank can become when values are stored in its channels. -/
inductive Filled (start : Bank) : Bank → Prop where
  | refl : Filled start start
  | set {bank : Bank} (earlier : Filled start bank) (var ch : Nat) (value : Value) :
      Filled start (bank.set var ch value)

theorem Filled.shape_eq {start bank : Bank} (filled : start.Filled bank) :
    bank.shape = start.shape := by
  induction filled with
  | refl => rfl
  | set _ var ch value inductionHypothesis => rw [shape_set, inductionHypothesis]

theorem filled_setAudio (bank : Bank) (var : Nat) (block : AudioBlock) :
    bank.Filled (bank.setAudio var block) :=
  .set .refl var 0 (.audio block)

theorem filled_allocateAudio (bank : Bank) (var channels frames : Nat) :
    bank.Filled (bank.allocateAudio var channels frames) := by
  unfold allocateAudio
  split
  · exact bank.filled_setAudio var _
  · exact .refl

theorem filled_of_setNumber {bank stored : Bank} {var ch : Nat} {x : Float}
    (done : bank.setNumber var ch x = .ok stored) : bank.Filled stored := by
  unfold setNumber at done
  split at done
  · cases done
    exact .refl
  · obtain ⟨value, -, rfl⟩ := map_eq_ok.mp done
    exact .set .refl var ch value

theorem filled_of_assign {bank stored : Bank} {var ch : Nat} {source : Value}
    (assigned : bank.assign var ch source = .ok (some stored)) : bank.Filled stored := by
  rcases assign_eq_ok.mp assigned with ⟨-, absent⟩ | ⟨place, value, -, -, isStored⟩
  · cases absent
  · cases isStored
    exact .set .refl var ch value

/-! ## Channels and shapes -/

theorem isSome_get? (bank : Bank) (var ch : Nat) :
    (bank.get? var ch).isSome = ((bank.shape[var]?).any fun entry => ch < entry.channels) := by
  rw [get?, shape, List.getElem?_map]
  cases bank.vars[var]? with
  | none => rfl
  | some entry =>
      by_cases below : ch < entry.channels.length <;> simp [Variable.shape, below]

/-- Banks of one shape that hold the same values are equal. -/
theorem eq_of_shape {left right : Bank} (sameShape : left.shape = right.shape)
    (sameValues : ∀ var ch, left.get? var ch = right.get? var ch) : left = right := by
  have sameVars : left.vars = right.vars := by
    apply List.ext_getElem?
    intro var
    have shapes : (left.vars[var]?).map Variable.shape = (right.vars[var]?).map Variable.shape := by
      rw [← List.getElem?_map, ← List.getElem?_map]
      exact congrArg (·[var]?) sameShape
    have values := sameValues var
    cases leftFound : left.vars[var]? with
    | none =>
        rw [leftFound, Option.map_none, eq_comm, Option.map_eq_none_iff] at shapes
        rw [shapes]
    | some leftEntry =>
        rw [leftFound, Option.map_some, eq_comm, Option.map_eq_some_iff] at shapes
        obtain ⟨rightEntry, rightFound, entryShapes⟩ := shapes
        simp only [get?, leftFound, rightFound, Option.bind_some] at values
        have channels : leftEntry.channels = rightEntry.channels := List.ext_getElem? values
        rw [rightFound]
        cases leftEntry
        cases rightEntry
        simp only [Variable.shape, VariableShape.mk.injEq] at entryShapes channels
        obtain ⟨rfl, rfl, rfl, -⟩ := entryShapes
        rw [channels]
  cases left
  cases right
  exact congrArg Bank.mk sameVars

end Bank

end SignalNet
