import Mathlib.Data.Set.Finite.List
import SignalNet.Proofs.Schema.Declarations
import SignalNet.Proofs.Schema.Nesting

/-!
Contract: a catalogue is refused only for a missing target or for a circle.

Two searches can meet a circle. The rounds of the resolution stop when every subnet that
is left waits for another one that is left, and among finitely many subnets that leads
back to one of them. The check of the nesting stops when a subnet meets itself. So, apart
from targets that are not found, finishing succeeds exactly if no subnet reaches itself.

Owns: nesting in a catalogue (`Catalogue.Nests`), why the rounds fail
(`Stage.error_of_resolveAll`), and the law of finishing (`WellFormed.finish_iff_acyclic`).
-/

set_option autoImplicit false

namespace SignalNet

open Relation (TransGen)

variable {P : Type}

/-- Where every one of finitely many things leads to another one of them, there is a
circle. -/
theorem exists_circle {α : Type} {relation : α → α → Prop} {items : List α}
    (nonempty : items ≠ []) (next : ∀ item ∈ items, ∃ other ∈ items, relation item other) :
    ∃ item, TransGen relation item item := by
  by_contra noCircle
  have finite : Finite { item // item ∈ items } := (List.finite_toSet items).to_subtype
  let behind := fun left right : { item // item ∈ items } => TransGen relation right.1 left.1
  have transitive : IsTrans _ behind :=
    ⟨fun _ _ _ first second => TransGen.trans second first⟩
  have irreflexive : Std.Irrefl behind := ⟨fun item circle => noCircle ⟨item.1, circle⟩⟩
  have wellFounded : WellFounded behind := Finite.wellFounded_of_trans_of_irrefl _
  obtain ⟨first, member⟩ := List.exists_mem_of_ne_nil items nonempty
  obtain ⟨last, -, isLast⟩ := wellFounded.has_min Set.univ ⟨⟨first, member⟩, trivial⟩
  obtain ⟨other, otherMember, related⟩ := next last.1 last.2
  exact isLast ⟨other, otherMember⟩ trivial (TransGen.single related)

/-- A variable stands for something that is not there. -/
def SchemaError.IsMissingTarget (fault : SchemaError) : Prop :=
  ∃ className var target cause, fault = .targetNotFound className var target cause

namespace Catalogue

/-- A subnet nests a class if one of the procs of its network, as it was read, is of that
class. -/
def Nests (catalogue : Catalogue P) (outer inner : String) : Prop :=
  ∃ subnet ∈ catalogue.subnets, subnet.label = outer ∧
    ∃ template, subnet.template? = some template ∧
      ∃ spec ∈ template.procs, spec.className = inner

variable {catalogue : Catalogue P} {set : ClassSet P}

/-! ## Why a subnet waits -/

theorem innerVariable_eq_none {className : String} {template : Template}
    {declaration : Declaration}
    (waits : catalogue.innerVariable set className template declaration = .ok none) :
    ∃ spec ∈ template.procs, set.get? spec.className = none ∧
      catalogue.section? spec.className = some .subnet := by
  unfold innerVariable at waits
  split at waits
  · cases waits
  · split at waits
    · cases waits
    · rename_i spec isSpec
      split at waits
      · rename_i absent
        split at waits
        · rename_i isSubnet
          exact ⟨spec, List.mem_of_find?_eq_some isSpec, absent, isSubnet⟩
        · cases waits
      · split at waits <;> cases waits

theorem resolveVariables_eq_none {className : String} {template : Template}
    {vars : List Declaration}
    (waits : catalogue.resolveVariables set className template vars = .ok none) :
    ∃ spec ∈ template.procs, set.get? spec.className = none ∧
      catalogue.section? spec.className = some .subnet := by
  fun_induction resolveVariables catalogue set className template vars with
  | case1 => cases waits
  | case2 declaration rest fault result => cases waits
  | case3 declaration rest result => exact innerVariable_eq_none result
  | case4 declaration rest inner result inductionHypothesis =>
      obtain ⟨others, restDone, joined⟩ := map_eq_ok.mp waits
      rw [Option.map_eq_none_iff] at joined
      exact inductionHypothesis (joined ▸ restDone)

/-- A subnet that has to wait nests another subnet that is not resolved. -/
theorem resolveSubnet_eq_none {subnet : ClassDescription P} (listed : subnet ∈ catalogue.subnets)
    (waits : catalogue.resolveSubnet set subnet = .ok none) :
    ∃ inner, catalogue.Nests subnet.label inner ∧ set.get? inner = none ∧
      catalogue.section? inner = some .subnet := by
  unfold resolveSubnet at waits
  split at waits
  · cases waits
  · rename_i template isTemplate
    obtain ⟨vars, resolved, joined⟩ := map_eq_ok.mp waits
    rw [Option.map_eq_none_iff] at joined
    obtain ⟨spec, member, absent, isSubnet⟩ := resolveVariables_eq_none (joined ▸ resolved)
    exact ⟨spec.className, ⟨subnet, listed, rfl, template, isTemplate, spec, member, rfl⟩, absent,
      isSubnet⟩

/-! ## Why the rounds fail -/

theorem error_of_innerVariable {className : String} {template : Template}
    {declaration : Declaration} {fault : SchemaError} (asRead : declaration.AsRead .subnet)
    (failed : catalogue.innerVariable set className template declaration = .error fault) :
    fault.IsMissingTarget := by
  unfold innerVariable at failed
  split at failed
  · rename_i noTarget
    rw [Declaration.AsRead, noTarget] at asRead
    cases asRead.1
  · split at failed
    · cases failed
      exact ⟨_, _, _, _, rfl⟩
    · split at failed
      · split at failed
        · cases failed
        · cases failed
          exact ⟨_, _, _, _, rfl⟩
      · split at failed
        · cases failed
          exact ⟨_, _, _, _, rfl⟩
        · cases failed

theorem error_of_resolveVariables {className : String} {template : Template}
    {vars : List Declaration} {fault : SchemaError}
    (asRead : ∀ declaration ∈ vars, declaration.AsRead .subnet)
    (failed : catalogue.resolveVariables set className template vars = .error fault) :
    fault.IsMissingTarget := by
  fun_induction resolveVariables catalogue set className template vars with
  | case1 => cases failed
  | case2 declaration rest other result =>
      cases failed
      exact error_of_innerVariable (asRead declaration List.mem_cons_self) result
  | case3 declaration rest result => cases failed
  | case4 declaration rest inner result inductionHypothesis =>
      exact inductionHypothesis
        (fun other member => asRead other (List.mem_cons_of_mem _ member)) (map_eq_error.mp failed)

theorem error_of_resolveSubnet {subnet : ClassDescription P} {fault : SchemaError}
    (asRead : ∀ declaration ∈ subnet.vars, declaration.AsRead .subnet)
    (failed : catalogue.resolveSubnet set subnet = .error fault) : fault.IsMissingTarget := by
  unfold resolveSubnet at failed
  split at failed
  · cases failed
  · exact error_of_resolveVariables asRead (map_eq_error.mp failed)

end Catalogue

namespace Stage

variable {catalogue : Catalogue P} {set : ClassSet P} {pending : List (ClassDescription P)}

theorem error_of_resolveRound (wellFormed : catalogue.WellFormed)
    (declared : ∀ subnet ∈ catalogue.subnets, ∀ declaration ∈ subnet.vars,
      declaration.AsRead .subnet)
    {skipped : List (ClassDescription P)} (stage : Stage catalogue set (pending ++ skipped))
    {fault : SchemaError} (failed : catalogue.resolveRound set pending = .error fault) :
    fault.IsMissingTarget := by
  induction pending generalizing set skipped with
  | nil => cases failed
  | cons subnet rest inductionHypothesis =>
      have member := stage.listed subnet List.mem_cons_self
      rw [Catalogue.resolveRound] at failed
      cases result : catalogue.resolveSubnet set subnet with
      | error other =>
          rw [result] at failed
          cases failed
          exact Catalogue.error_of_resolveSubnet (declared subnet member) result
      | ok resolved? =>
          rw [result] at failed
          cases resolved? with
          | none =>
              have behind : Stage catalogue set (rest ++ (subnet :: skipped)) :=
                stage.congr List.perm_middle.symm
              exact inductionHypothesis behind (map_eq_error.mp failed)
          | some resolved =>
              obtain ⟨larger, inserted, nextStage⟩ := stage.insert wellFormed result
              simp only [inserted] at failed
              exact inductionHypothesis nextStage failed

/-- When no subnet can be resolved any more, those that are left go round in a circle. -/
theorem circle_of_stuck (wellFormed : catalogue.WellFormed) (stage : Stage catalogue set pending)
    (nonempty : pending ≠ [])
    (stuck : ∀ subnet ∈ pending, catalogue.resolveSubnet set subnet = .ok none) :
    ∃ label, TransGen catalogue.Nests label label := by
  have someLabel : pending.map (·.label) ≠ [] := by rwa [ne_eq, List.map_eq_nil_iff]
  refine exists_circle someLabel fun label member => ?_
  obtain ⟨subnet, isPending, rfl⟩ := List.mem_map.mp member
  obtain ⟨inner, nests, absent, isSubnet⟩ :=
    Catalogue.resolveSubnet_eq_none (stage.listed subnet isPending) (stuck subnet isPending)
  rw [wellFormed.section?_eq_some, Catalogue.taken] at isSubnet
  rcases List.mem_append.mp isSubnet with isPlain | inSubnets
  · obtain ⟨description, -, isEntry⟩ := List.mem_map.mp isPlain
    cases isEntry
  · obtain ⟨other, listed, isEntry⟩ := List.mem_map.mp inSubnets
    cases isEntry
    rcases stage.covered other listed with otherPending | ⟨description, found⟩
    · exact ⟨other.label, List.mem_map_of_mem otherPending, nests⟩
    · rw [absent] at found
      cases found

/-- The rounds fail only for a missing target, or because of a circle. -/
theorem error_of_resolveAll (wellFormed : catalogue.WellFormed)
    (declared : ∀ subnet ∈ catalogue.subnets, ∀ declaration ∈ subnet.vars,
      declaration.AsRead .subnet)
    (stage : Stage catalogue set pending) {fault : SchemaError}
    (failed : catalogue.resolveAll set pending = .error fault) :
    fault.IsMissingTarget ∨
      (∃ className, fault = .endlessTargets className) ∧
        ∃ label, TransGen catalogue.Nests label label := by
  fun_induction Catalogue.resolveAll catalogue set pending with
  | case1 set => cases failed
  | case2 set first rest other round =>
      cases failed
      have before : Stage catalogue set ((first :: rest) ++ []) := by rwa [List.append_nil]
      exact .inl (before.error_of_resolveRound wellFormed declared round)
  | case3 set first rest larger waiting round fewer inductionHypothesis =>
      have before : Stage catalogue set ((first :: rest) ++ []) := by rwa [List.append_nil]
      have after := before.resolveRound wellFormed round
      rw [List.append_nil] at after
      exact inductionHypothesis after failed
  | case4 set first rest larger waiting round notFewer =>
      cases failed
      have stuck := (Catalogue.length_waiting round).2 (Nat.le_of_not_lt notFewer)
      exact .inr ⟨⟨_, rfl⟩, stage.circle_of_stuck wellFormed (List.cons_ne_nil _ _) stuck⟩

end Stage

/-! ## Finishing -/

namespace Catalogue.WellFormed

variable {catalogue : Catalogue P} {set : ClassSet P}

/-- Resolving changes nothing about which classes a subnet nests. -/
theorem nests_eq (wellFormed : catalogue.WellFormed)
    (resolved : catalogue.resolveAll ⟨catalogue.plain⟩ catalogue.subnets = .ok set) :
    set.Nests = catalogue.Nests := by
  funext outer inner
  apply propext
  constructor
  · rintro ⟨template, isTemplate, spec, member, same⟩
    obtain ⟨description, found, isInner⟩ := Option.bind_eq_some_iff.mp isTemplate
    obtain ⟨settled, labelled⟩ := (wellFormed.get?_resolved resolved).mp found
    cases settled with
    | plain isPlain =>
        obtain ⟨native, -, kind, -⟩ := wellFormed.plainBacked _ isPlain
        rw [ClassDescription.template?, kind] at isInner
        cases isInner
    | subnet isSubnet _ _ _ _ =>
        exact ⟨_, isSubnet, labelled, template, isInner, spec, member, same⟩
  · rintro ⟨subnet, listed, rfl, template, isTemplate, spec, member, same⟩
    obtain ⟨description, settled, labelled⟩ :=
      wellFormed.exists_resolveAll_iff.mp ⟨set, resolved⟩ subnet listed
    have found := (wellFormed.get?_resolved resolved).mpr ⟨settled, labelled⟩
    refine ⟨template, Option.bind_eq_some_iff.mpr ⟨description, found, ?_⟩, spec, member, same⟩
    cases settled with
    | plain isPlain => exact (wellFormed.sections_apart isPlain listed labelled).elim
    | subnet isSubnet _ _ _ _ =>
        obtain rfl := wellFormed.subnet_unique isSubnet listed labelled
        exact isTemplate

/-- A catalogue whose subnets resolve fails if the check of the nesting does. -/
theorem finish_eq_error (wellFormed : catalogue.WellFormed)
    (resolved : catalogue.resolveAll ⟨catalogue.plain⟩ catalogue.subnets = .ok set)
    {fault : SchemaError} (checked : set.checkNesting = .error fault) :
    catalogue.finish = .error fault := by
  simp only [finish, wellFormed.plainSet_eq, resolved, checked, bind, Except.bind]

theorem error_of_finish (wellFormed : catalogue.WellFormed)
    (declared : ∀ subnet ∈ catalogue.subnets, ∀ declaration ∈ subnet.vars,
      declaration.AsRead .subnet) {fault : SchemaError} (failed : catalogue.finish = .error fault) :
    fault.IsMissingTarget ∨
      ((∃ className, fault = .endlessTargets className) ∧
        ∃ label, TransGen catalogue.Nests label label) ∨
      ∃ label path,
        fault = .badSyntax (below (below "subnets" label) "network") (.nestsItself path) ∧
        TransGen catalogue.Nests label label := by
  rw [finish, wellFormed.plainSet_eq] at failed
  rcases bind_eq_error.mp failed with impossible | ⟨_, same, failed⟩
  · cases impossible
  cases same
  rcases bind_eq_error.mp failed with rounds | ⟨set, rounds, failed⟩
  · exact (wellFormed.stage.error_of_resolveAll wellFormed declared rounds).imp_right .inl
  rcases bind_eq_error.mp failed with nesting | ⟨_, _, failed⟩
  · have circular := ClassSet.circular_of_checkNesting_error nesting
    rw [ClassSet.Circular, wellFormed.nests_eq rounds] at circular
    exact .inr (.inr circular)
  · cases failed

/-- Where no target is missing, a catalogue finishes exactly if no subnet reaches itself. -/
theorem finish_iff_acyclic (wellFormed : catalogue.WellFormed)
    (declared : ∀ subnet ∈ catalogue.subnets, ∀ declaration ∈ subnet.vars,
      declaration.AsRead .subnet)
    (noneMissing : ∀ fault, catalogue.finish = .error fault → ¬ fault.IsMissingTarget) :
    (∃ set, catalogue.finish = .ok set) ↔ ∀ label, ¬ TransGen catalogue.Nests label label := by
  constructor
  · rintro ⟨set, finished⟩
    obtain ⟨resolved, checked⟩ := wellFormed.finish_eq_ok.mp finished
    rw [← wellFormed.nests_eq resolved]
    exact ClassSet.checkNesting_eq_ok_iff.mp checked
  · intro acyclic
    cases result : catalogue.finish with
    | ok set => exact ⟨set, rfl⟩
    | error fault =>
        rcases wellFormed.error_of_finish declared result with
          missing | ⟨-, label, circle⟩ | ⟨label, path, -, circle⟩
        · exact absurd missing (noneMissing fault result)
        · exact absurd circle (acyclic label)
        · exact absurd circle (acyclic label)

end Catalogue.WellFormed

end SignalNet
