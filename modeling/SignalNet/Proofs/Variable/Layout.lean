import SignalNet.Proofs.Variable.Shape

/-!
Contract: the layout of a bank.

Native code changes the bank of its proc through the operations of a bank: it puts values into
channels, and sizes variables. None of them makes, drops, moves or renames a variable, and each
leaves every variable with a channel, so the layout that a bank has from the declarations of its
class is there for good.

Owns: `Bank.Edited`, what a bank can become by its operations; `Bank.Laid`, the layout; one
lemma for every operation, and that edits keep the layout.
-/

set_option autoImplicit false

namespace SignalNet

/-! ## Channels of a variable -/

namespace Variable

theorem length_assignFrom (type : ValueType) (literal : Literal) (ch : Nat)
    (channels : List Value) :
    (assignFrom type literal ch channels).1.length = channels.length := by
  fun_induction assignFrom type literal ch channels with
  | case1 ch => rfl
  | case2 ch old rest absent stored outcome result inductionHypothesis =>
      rw [result] at inductionHypothesis
      exact congrArg (· + 1) inductionHypothesis
  | case3 ch old rest item found fault refused => rfl
  | case4 ch old rest item found value converted stored outcome result inductionHypothesis =>
      rw [result] at inductionHypothesis
      exact congrArg (· + 1) inductionHypothesis

theorem length_assignLiteral (entry : Variable) (literal : Literal) :
    (entry.assignLiteral literal).1.channels.length = entry.channels.length :=
  length_assignFrom entry.type literal 0 entry.channels

theorem length_resize (entry : Variable) (count : Nat) :
    (entry.resize count).channels.length = max count 1 := by
  rw [resize, List.length_append, List.length_take, List.length_replicate]
  omega

/-- A declaration makes one channel under its own label. -/
theorem layout_ofDeclaration {declaration : Declaration} {entry : Variable}
    (made : ofDeclaration declaration = .ok entry) :
    entry.label = declaration.label ∧ entry.channels.length = 1 := by
  unfold ofDeclaration at made
  split at made
  · cases made
    exact ⟨rfl, rfl⟩
  · obtain ⟨-, -, rfl⟩ := map_eq_ok.mp made
    exact ⟨rfl, length_assignLiteral _ _⟩

end Variable

namespace Bank

/-! ## Edits -/

/-- What a bank can become by its operations, whatever values they are given. -/
inductive Edited (start : Bank) : Bank → Prop where
  | refl : Edited start start
  | set {bank : Bank} (earlier : Edited start bank) (var ch : Nat) (value : Value) :
      Edited start (bank.set var ch value)
  | setChannelCount {bank : Bank} (earlier : Edited start bank) (var count : Nat) :
      Edited start (bank.setChannelCount var count)
  | applyLiteral {bank : Bank} (earlier : Edited start bank) (var : Nat) (literal : Literal) :
      Edited start (bank.applyLiteral var literal).1

/-- To store values is to edit. -/
theorem Filled.edited {start bank : Bank} (filled : start.Filled bank) : start.Edited bank := by
  induction filled with
  | refl => exact .refl
  | set _ var ch value inductionHypothesis => exact .set inductionHypothesis var ch value

/-! ## Layouts -/

/-- A bank has one variable for each label, in order, and every variable has a channel. -/
structure Laid (labels : List String) (bank : Bank) : Prop where
  labels_eq : bank.vars.map (·.label) = labels
  nonempty : ∀ entry ∈ bank.vars, 0 < entry.channels.length

namespace Laid

variable {labels : List String} {bank stored : Bank}

theorem length_eq (laid : bank.Laid labels) : bank.vars.length = labels.length := by
  rw [← laid.labels_eq, List.length_map]

/-- Changing a variable keeps the layout if it keeps the label and leaves a channel. -/
theorem modify (laid : bank.Laid labels) (var : Nat) {f : Variable → Variable}
    (keeps : ∀ entry, bank.vars[var]? = some entry →
      (f entry).label = entry.label ∧ 0 < (f entry).channels.length) :
    (bank.modify var f).Laid labels where
  labels_eq := by
    rw [map_modify (·.label) fun entry found => (keeps entry found).1, laid.labels_eq]
  nonempty := forall_modify laid.nonempty fun entry found => (keeps entry found).2

theorem set (laid : bank.Laid labels) (var ch : Nat) (value : Value) :
    (bank.set var ch value).Laid labels := by
  refine laid.modify var fun entry found => ⟨rfl, ?_⟩
  rw [List.length_set]
  exact laid.nonempty entry (List.mem_of_getElem? found)

theorem setChannelCount (laid : bank.Laid labels) (var count : Nat) :
    (bank.setChannelCount var count).Laid labels := by
  refine laid.modify var fun entry _ => ⟨rfl, ?_⟩
  rw [Variable.length_resize]
  omega

theorem applyLiteral (laid : bank.Laid labels) (var : Nat) (literal : Literal) :
    (bank.applyLiteral var literal).1.Laid labels := by
  unfold Bank.applyLiteral
  split
  · exact laid
  · rename_i old found
    dsimp only
    rw [List.set_eq_modify]
    apply laid.modify var
    intro entry there
    obtain rfl := Option.some.inj (found.symm.trans there)
    split
    · rename_i count _
      refine ⟨rfl, ?_⟩
      rw [Variable.length_assignLiteral, Variable.length_resize]
      omega
    · refine ⟨rfl, ?_⟩
      rw [Variable.length_assignLiteral]
      exact laid.nonempty old (List.mem_of_getElem? found)

/-- Edits keep the layout of a bank. -/
theorem edited (laid : bank.Laid labels) (edits : bank.Edited stored) : stored.Laid labels := by
  induction edits with
  | refl => exact laid
  | set _ var ch value inductionHypothesis => exact inductionHypothesis.set var ch value
  | setChannelCount _ var count inductionHypothesis =>
      exact inductionHypothesis.setChannelCount var count
  | applyLiteral _ var literal inductionHypothesis =>
      exact inductionHypothesis.applyLiteral var literal

/-- A variable has a channel exactly if its position is that of a label. -/
theorem channelCount_pos (laid : bank.Laid labels) {var : Nat} (below : var < labels.length) :
    0 < bank.channelCount var := by
  have varBelow : var < bank.vars.length := laid.length_eq ▸ below
  rw [channelCount, List.getElem?_eq_getElem varBelow, Option.map_some, Option.getD_some]
  exact laid.nonempty _ (List.getElem_mem varBelow)

/-- Every variable holds a value in its first channel. -/
theorem exists_first (laid : bank.Laid labels) {var : Nat} (below : var < labels.length) :
    ∃ value, bank.get? var 0 = some value := by
  have varBelow : var < bank.vars.length := laid.length_eq ▸ below
  have present := laid.nonempty _ (List.getElem_mem varBelow)
  refine ⟨bank.vars[var].channels[0], ?_⟩
  rw [get?, List.getElem?_eq_getElem varBelow, Option.bind_some, List.getElem?_eq_getElem present]

end Laid

/-- The bank that declarations make is laid out by their labels. -/
theorem laid_ofDeclarations {declarations : List Declaration} {bank : Bank}
    (made : ofDeclarations declarations = .ok bank) :
    bank.Laid (declarations.map (·.label)) := by
  induction declarations generalizing bank with
  | nil =>
      cases made
      exact ⟨rfl, fun entry member => absurd member List.not_mem_nil⟩
  | cons declaration rest inductionHypothesis =>
      rw [ofDeclarations] at made
      split at made
      · cases made
      · rename_i entry first
        obtain ⟨others, remaining, rfl⟩ := map_eq_ok.mp made
        obtain ⟨sameLabel, oneChannel⟩ := Variable.layout_ofDeclaration first
        have laid := inductionHypothesis remaining
        refine ⟨?_, List.forall_mem_cons.mpr ⟨?_, laid.nonempty⟩⟩
        · rw [List.map_cons, List.map_cons, sameLabel, laid.labels_eq]
        · rw [oneChannel]
          exact Nat.one_pos

end Bank

end SignalNet
