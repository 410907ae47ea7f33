import SignalNet.Proofs.Outcome
import SignalNet.Proofs.Value.Conversion
import SignalNet.Variable.Bank

/-!
Contract: the types of what a bank holds.

A bank is typed by a list of types if its variables have these types, in order, and all
their channels hold values of the type of their variable. Every operation of a bank keeps
this, those that stop midway included.

Owns: the reading of a bank that was set, `Bank.Typed`, and one lemma for every operation.
-/

set_option autoImplicit false

namespace SignalNet

/-! ## Variables -/

namespace Variable

/-- All channels of a variable hold values of its type. -/
def Sound (entry : Variable) : Prop := ∀ value ∈ entry.channels, value.type = entry.type

/-- A literal leaves values of the type in all channels, wherever it was refused. -/
theorem type_of_mem_assignFrom {type : ValueType} (literal : Literal) (ch : Nat)
    {channels : List Value} (sound : ∀ value ∈ channels, value.type = type) :
    ∀ value ∈ (assignFrom type literal ch channels).1, value.type = type := by
  induction channels generalizing ch with
  | nil => exact sound
  | cons old rest inductionHypothesis =>
      have oldSound := sound old List.mem_cons_self
      have restSound := inductionHypothesis (ch + 1)
        fun value member => sound value (List.mem_cons_of_mem old member)
      rw [assignFrom]
      split
      · exact List.forall_mem_cons.mpr ⟨oldSound, restSound⟩
      · split
        · exact sound
        · rename_i value converted
          exact List.forall_mem_cons.mpr ⟨Literal.type_of_toValue converted, restSound⟩

theorem Sound.assignLiteral {entry : Variable} (sound : entry.Sound) (literal : Literal) :
    (entry.assignLiteral literal).1.Sound :=
  type_of_mem_assignFrom literal 0 sound

theorem Sound.resize {entry : Variable} (sound : entry.Sound) (count : Nat) :
    (entry.resize count).Sound := by
  have first : (entry.channels.headD (Value.zero entry.type)).type = entry.type := by
    cases channels : entry.channels with
    | nil => exact Value.type_zero entry.type
    | cons value rest =>
        apply sound value
        rw [channels]
        exact List.mem_cons_self
  intro value member
  rcases List.mem_append.mp member with kept | added
  · exact sound value (List.mem_of_mem_take kept)
  · rw [List.eq_of_mem_replicate added]
    exact first

theorem ofDeclaration_spec {declaration : Declaration} {entry : Variable}
    (made : ofDeclaration declaration = .ok entry) :
    entry.type = declaration.type ∧ entry.Sound := by
  have start : Sound ⟨declaration.label, declaration.type, declaration.flags,
      [Value.zero declaration.type]⟩ := by
    intro value member
    rw [List.mem_singleton.mp member]
    exact Value.type_zero declaration.type
  unfold ofDeclaration at made
  split at made
  · cases made
    exact ⟨rfl, start⟩
  · rename_i literal _
    obtain ⟨-, -, rfl⟩ := map_eq_ok.mp made
    exact ⟨rfl, start.assignLiteral literal⟩

end Variable

namespace Bank

/-! ## Reading and writing -/

theorem get?_set (bank : Bank) (var ch : Nat) (value : Value) (other channel : Nat) :
    (bank.set var ch value).get? other channel =
      if var = other ∧ ch = channel then (bank.get? other channel).map fun _ => value
      else bank.get? other channel := by
  simp only [get?, set, modify, List.getElem?_modify]
  by_cases sameVar : var = other
  · subst sameVar
    cases bank.vars[var]? with
    | none => simp
    | some entry =>
        simp only [if_true, Option.map_eq_map, Option.map_some, Option.bind_some, true_and,
          List.getElem?_set']
        rfl
  · simp [sameVar]

theorem assign_eq_ok {bank : Bank} {var ch : Nat} {source : Value} {stored? : Option Bank} :
    bank.assign var ch source = .ok stored? ↔
      (bank.get? var ch = none ∧ stored? = none) ∨
        ∃ place value, bank.get? var ch = some place ∧
          source.convert place.type = .ok value ∧ stored? = some (bank.set var ch value) := by
  unfold assign
  cases bank.get? var ch with
  | none => simp [eq_comm]
  | some place =>
      simp only [map_eq_ok, Value.assign_eq_convert, reduceCtorEq, false_and, false_or]
      constructor
      · rintro ⟨value, converted, rfl⟩
        exact ⟨place, value, rfl, converted, rfl⟩
      · rintro ⟨_, value, ⟨⟩, converted, rfl⟩
        exact ⟨value, converted, rfl⟩

theorem audio?_of_audioPair? {bank : Bank} {input output : Nat} {source sink : AudioBlock}
    (found : bank.audioPair? input output = some (source, sink)) :
    bank.audio? output = some sink := by
  unfold audioPair? at found
  split at found
  · cases found
  · split at found
    · rename_i sinkFound
      cases found
      exact sinkFound
    · cases found

/-! ## Changing a variable -/

/-- What a change of a variable keeps, it keeps in the list of all variables. -/
theorem map_modify {β : Type} {bank : Bank} {var : Nat} {f : Variable → Variable}
    (g : Variable → β) (keeps : ∀ entry, bank.vars[var]? = some entry → g (f entry) = g entry) :
    (bank.modify var f).vars.map g = bank.vars.map g := by
  apply List.ext_getElem?
  intro index
  rw [modify, List.getElem?_map, List.getElem?_map, List.getElem?_modify]
  cases found : bank.vars[index]? with
  | none => rfl
  | some entry =>
      by_cases here : var = index
      · subst here
        simp [keeps entry found]
      · simp [here]

/-- What holds of all variables holds of them after a change if it holds of what was changed. -/
theorem forall_modify {motive : Variable → Prop} {bank : Bank} {var : Nat}
    {f : Variable → Variable} (holds : ∀ entry ∈ bank.vars, motive entry)
    (changed : ∀ entry, bank.vars[var]? = some entry → motive (f entry)) :
    ∀ entry ∈ (bank.modify var f).vars, motive entry := by
  intro after member
  obtain ⟨index, there⟩ := List.mem_iff_getElem?.mp member
  rw [modify, List.getElem?_modify] at there
  obtain ⟨entry, found, isAfter⟩ := Option.map_eq_some_iff.mp there
  by_cases here : var = index
  · subst here
    rw [← isAfter, if_pos rfl]
    exact changed entry found
  · rw [← isAfter, if_neg here]
    exact holds entry (List.mem_of_getElem? found)

/-! ## Typed banks -/

/-- The variables of a bank have some types, and hold values of their types. -/
structure Typed (types : List ValueType) (bank : Bank) : Prop where
  types_eq : bank.vars.map (·.type) = types
  sound : ∀ entry ∈ bank.vars, entry.Sound

namespace Typed

variable {types : List ValueType} {bank : Bank}

theorem type_of_get? (typed : bank.Typed types) {var ch : Nat} {value : Value}
    (found : bank.get? var ch = some value) : types[var]? = some value.type := by
  obtain ⟨entry, isEntry, held⟩ := Option.bind_eq_some_iff.mp found
  rw [← typed.types_eq, List.getElem?_map, isEntry, Option.map_some,
    typed.sound entry (List.mem_of_getElem? isEntry) value (List.mem_of_getElem? held)]

/-- Changing a variable keeps a bank typed if it keeps the variable sound and of its type. -/
theorem modify (typed : bank.Typed types) (var : Nat) {f : Variable → Variable}
    (keeps : ∀ entry, bank.vars[var]? = some entry →
      (f entry).type = entry.type ∧ (f entry).Sound) :
    (bank.modify var f).Typed types where
  types_eq := by
    rw [map_modify (·.type) fun entry found => (keeps entry found).1, typed.types_eq]
  sound := forall_modify typed.sound fun entry found => (keeps entry found).2

theorem set (typed : bank.Typed types) {var : Nat} {value : Value}
    (fits : types[var]? = some value.type) (ch : Nat) : (bank.set var ch value).Typed types := by
  refine typed.modify var fun entry found => ⟨rfl, fun held member => ?_⟩
  have entryType : value.type = entry.type := by
    rw [← typed.types_eq, List.getElem?_map, found, Option.map_some] at fits
    exact (Option.some.inj fits).symm
  rcases List.mem_or_eq_of_mem_set member with kept | rfl
  · exact typed.sound entry (List.mem_of_getElem? found) held kept
  · exact entryType

theorem assign (typed : bank.Typed types) {var ch : Nat} {source : Value} {stored : Bank}
    (assigned : bank.assign var ch source = .ok (some stored)) : stored.Typed types := by
  rcases assign_eq_ok.mp assigned with ⟨-, absent⟩ | ⟨place, value, found, converted, isStored⟩
  · cases absent
  · cases isStored
    refine typed.set ?_ ch
    rw [typed.type_of_get? found, Value.type_of_convert converted]

theorem setNumber (typed : bank.Typed types) {var ch : Nat} {x : Float} {stored : Bank}
    (done : bank.setNumber var ch x = .ok stored) : stored.Typed types := by
  unfold Bank.setNumber at done
  split at done
  · cases done
    exact typed
  · rename_i old found
    obtain ⟨value, converted, rfl⟩ := map_eq_ok.mp done
    refine typed.set ?_ ch
    rw [typed.type_of_get? found, Value.type_of_ofNumber converted]

theorem setAudio (typed : bank.Typed types) {var : Nat} {old : AudioBlock}
    (found : bank.audio? var = some old) (block : AudioBlock) :
    (bank.setAudio var block).Typed types := by
  unfold audio? at found
  split at found
  · rename_i held isAudio
    have audioType : types[var]? = some .audio := typed.type_of_get? isAudio
    exact typed.set audioType 0
  · cases found

theorem allocateAudio (typed : bank.Typed types) (var channels frames : Nat) :
    (bank.allocateAudio var channels frames).Typed types := by
  unfold Bank.allocateAudio
  split
  · rename_i found
    exact typed.setAudio found _
  · exact typed

theorem applyLiteral (typed : bank.Typed types) (var : Nat) (literal : Literal) :
    (bank.applyLiteral var literal).1.Typed types := by
  unfold Bank.applyLiteral
  split
  · exact typed
  · rename_i old found
    have oldSound := typed.sound old (List.mem_of_getElem? found)
    dsimp only
    rw [List.set_eq_modify]
    apply typed.modify var
    intro entry there
    obtain rfl := Option.some.inj (found.symm.trans there)
    split
    · rename_i count _
      exact ⟨rfl, (oldSound.resize count).assignLiteral literal⟩
    · exact ⟨rfl, oldSound.assignLiteral literal⟩

end Typed

theorem typed_ofDeclarations {declarations : List Declaration} {bank : Bank}
    (made : ofDeclarations declarations = .ok bank) :
    bank.Typed (declarations.map (·.type)) := by
  induction declarations generalizing bank with
  | nil =>
      cases made
      exact ⟨rfl, fun entry member => absurd member List.not_mem_nil⟩
  | cons declaration rest inductionHypothesis =>
      rw [ofDeclarations] at made
      split at made
      · cases made
      · rename_i entry first
        obtain ⟨others, remaining, rfl⟩ := map_eq_ok.mp made
        obtain ⟨sameType, sound⟩ := Variable.ofDeclaration_spec first
        have typed := inductionHypothesis remaining
        refine ⟨?_, List.forall_mem_cons.mpr ⟨sound, typed.sound⟩⟩
        rw [List.map_cons, List.map_cons, sameType, typed.types_eq]

end Bank

end SignalNet
