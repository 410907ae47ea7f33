import SignalNet.Preset.Apply
import SignalNet.Proofs.Network.Tree
import SignalNet.Proofs.Outcome

/-!
Contract: what a write through the variables of a network can do to its cells.

`Store.Written reached` relates two stores if the second comes from the first by
assigning values, one channel at a time, to variables in `reached`. Everything in a
network that assigns values has this form, whether it succeeds or stops midway:
connections, the address interface, subnet literals, and presets. What one
assignment keeps is therefore kept by all of them.

Owns: the relation, the cells it leaves alone, and one lemma for every operation that
writes.
-/

set_option autoImplicit false

namespace SignalNet

variable {P : Type} [Processor P]

namespace Store

/-- The second store comes from the first by assignments to some variables. -/
inductive Written (reached : Terminal → Prop) (start : Store P) : Store P → Prop where
  | refl : Written reached start start
  | assign {store : Store P} {terminal : Terminal} {cell changed : Cell P}
      {notify : Bool} {ch : Nat} {value : Value} (before : Written reached start store)
      (allowed : reached terminal) (found : store[terminal.slot]? = some cell)
      (stored : cell.write notify terminal.var ch value = .ok (some changed)) :
      Written reached start (store.set terminal.slot changed)

variable {reached : Terminal → Prop} {start middle after : Store P}

namespace Written

theorem trans (first : Written reached start middle) (second : Written reached middle after) :
    Written reached start after := by
  induction second with
  | refl => exact first
  | assign _ allowed found stored inductionHypothesis =>
      exact .assign inductionHypothesis allowed found stored

theorem mono {larger : Terminal → Prop} (written : Written reached start after)
    (included : ∀ terminal, reached terminal → larger terminal) :
    Written larger start after := by
  induction written with
  | refl => exact .refl
  | assign _ allowed found stored inductionHypothesis =>
      exact .assign inductionHypothesis (included _ allowed) found stored

theorem length_eq (written : Written reached start after) : after.length = start.length := by
  induction written with
  | refl => rfl
  | assign _ _ _ _ inductionHypothesis => rw [List.length_set, inductionHypothesis]

theorem unchanged (written : Written reached start after) {slot : Nat}
    (outside : ∀ terminal, reached terminal → terminal.slot ≠ slot) :
    after[slot]? = start[slot]? := by
  induction written with
  | refl => rfl
  | assign _ allowed _ _ inductionHypothesis =>
      rw [List.getElem?_set_ne (outside _ allowed), inductionHypothesis]

end Written

/-! ## Operations of a store -/

theorem written_write (notify : Bool) (ch : Nat) (value : Value) (terminals : List Terminal)
    (store : Store P) :
    Written (· ∈ terminals) store (write notify ch value terminals store).1 := by
  fun_induction write notify ch value terminals store with
  | case1 store => exact .refl
  | case2 terminal rest store absent inductionHypothesis =>
      exact inductionHypothesis.mono fun _ member => List.mem_cons_of_mem _ member
  | case3 terminal rest store cell found fault refused => exact .refl
  | case4 terminal rest store cell found noChannel inductionHypothesis =>
      exact inductionHypothesis.mono fun _ member => List.mem_cons_of_mem _ member
  | case5 terminal rest store cell found changed stored written outcome result
      inductionHypothesis =>
      have first : Written (· ∈ terminal :: rest) store (store.set terminal.slot changed) :=
        .assign .refl List.mem_cons_self found stored
      rw [result] at inductionHypothesis
      exact first.trans (inductionHypothesis.mono fun _ member => List.mem_cons_of_mem _ member)

theorem written_writeChannels (terminals : List Terminal) (ch : Nat) (values : List Value)
    (store : Store P) :
    Written (· ∈ terminals) store (writeChannels terminals ch values store).1 := by
  fun_induction writeChannels terminals ch values store with
  | case1 ch store => exact .refl
  | case2 ch value rest store written fault result =>
      have first := written_write false ch value terminals store
      rw [result] at first
      exact first
  | case3 ch value rest store written present result inductionHypothesis =>
      have first := written_write false ch value terminals store
      rw [result] at first
      exact first.trans inductionHypothesis

end Store

/-- The variables of a proc that some labels name. -/
def Proc.Named (proc : Proc P) (labels : List String) (terminal : Terminal) : Prop :=
  ∃ label ∈ labels, ∃ var, proc.variableIndex? label = some var ∧ terminal ∈ proc.terminals var

/-! ## Literals of subnets -/

namespace Build

open Store

variable {proc : Proc P} {store after : Store P}

theorem written_writeLiteral {var : Nat} {literal : Literal} {channels : List Nat}
    (completed : writeLiteral proc var literal channels store = .ok after) :
    Written (· ∈ proc.terminals var) store after := by
  fun_induction writeLiteral proc var literal channels store with
  | case1 store =>
      cases completed
      exact .refl
  | case2 ch rest store missing inductionHypothesis => exact inductionHypothesis completed
  | case3 ch rest store item found type refused fault => cases completed
  | case4 ch rest store item found type refused value converted written fault result =>
      cases completed
  | case5 ch rest store item found type value converted written present result
      inductionHypothesis =>
      have first := written_write false ch value (proc.terminals var) store
      rw [result] at first
      exact first.trans (inductionHypothesis completed)

theorem written_writeSubnet {spec : ProcSpec}
    (completed : writeSubnet spec proc store = .ok after) :
    Written (fun terminal => ∃ var, terminal ∈ proc.terminals var) store after := by
  have keeps : ∀ (var : Nat) (literal : Literal) (before next : Store P),
      Written (fun terminal => ∃ var, terminal ∈ proc.terminals var) store before →
      writeVariable proc var literal before = .ok next →
      Written (fun terminal => ∃ var, terminal ∈ proc.terminals var) store next := by
    intro var literal before next writtenBefore assigned
    exact writtenBefore.trans ((written_writeLiteral assigned).mono fun _ member => ⟨var, member⟩)
  obtain ⟨initialized, initials, arguments⟩ := bind_eq_ok.mp completed
  have writtenInitials := foldlM_keeps .refl
    (fun item _ before next => keeps item.1 item.2 before next) initials
  refine foldlM_keeps writtenInitials ?_ arguments
  intro item _ before next writtenBefore assigned
  cases found : proc.variableIndex? item.1 with
  | none =>
      simp only [found] at assigned
      cases assigned
  | some var =>
      simp only [found] at assigned
      exact keeps var item.2 before next writtenBefore assigned

end Build

/-! ## Presets -/

namespace Blend

open Store

theorem written_applyChannel (type : ValueType) (label : String) (terminals : List Terminal)
    (bodies : WeightedBodies) (store : Store P) (ch : Nat) :
    Written (· ∈ terminals) store (applyChannel type label terminals bodies store ch).1 := by
  unfold applyChannel
  split
  · exact .refl
  · exact .refl
  · rename_i value _
    have written := written_write true ch value terminals store
    split <;> rename_i result <;> rw [result] at written <;> exact written

theorem written_applyChannels (type : ValueType) (label : String) (terminals : List Terminal)
    (bodies : WeightedBodies) (channels : List Nat) (store : Store P) :
    Written (· ∈ terminals) store
      (applyChannels type label terminals bodies channels store).1 := by
  induction channels generalizing store with
  | nil => exact .refl
  | cons ch rest inductionHypothesis =>
      rw [applyChannels]
      exact (written_applyChannel type label terminals bodies store ch).trans
        (inductionHypothesis _)

theorem written_applyVariable (proc : Proc P) (bodies : WeightedBodies) (label : String)
    (store : Store P) :
    Written (proc.Named [label]) store (applyVariable proc bodies label store).1 := by
  unfold applyVariable
  cases found : proc.variableIndex? label with
  | none => exact .refl
  | some var =>
      dsimp only
      split
      · exact .refl
      · exact (written_applyChannels _ _ _ _ _ _).mono fun terminal member =>
          ⟨label, List.mem_singleton_self label, var, found, member⟩

theorem written_applyVariables (proc : Proc P) (bodies : WeightedBodies) (labels : List String)
    (store : Store P) :
    Written (proc.Named labels) store (applyVariables proc bodies labels store).1 := by
  induction labels generalizing store with
  | nil => exact .refl
  | cons label rest inductionHypothesis =>
      rw [applyVariables]
      refine ((written_applyVariable proc bodies label store).mono ?_).trans
        ((inductionHypothesis _).mono ?_)
      · rintro terminal ⟨named, member, reached⟩
        exact ⟨named, List.mem_cons.mpr (.inl (List.mem_singleton.mp member)), reached⟩
      · rintro terminal ⟨named, member, reached⟩
        exact ⟨named, List.mem_cons_of_mem label member, reached⟩

/-- The variables that an application of presets may assign to: in the procs that are
meant, those that one of the bodies mentions. -/
def Reached (weights : Weights) (replica : Option Nat) (sites : List (Site P))
    (terminal : Terminal) : Prop :=
  ∃ site ∈ sites, targets replica site = true ∧
    site.proc.Named (mentionedLabels (bodies site weights)) terminal

theorem written_applySites (weights : Weights) (replica : Option Nat) (sites : List (Site P))
    (store : Store P) :
    Written (Reached weights replica sites) store
      (applySites weights replica sites store).1 := by
  induction sites generalizing store with
  | nil => exact .refl
  | cons site rest inductionHypothesis =>
      rw [applySites]
      have first : Written (Reached weights replica (site :: rest)) store
          (applySite weights replica site store).1 := by
        unfold applySite
        split
        · rename_i meant
          exact (written_applyVariables _ _ _ _).mono fun terminal named =>
            ⟨site, List.mem_cons_self, meant, named⟩
        · exact .refl
      refine first.trans ((inductionHypothesis _).mono ?_)
      rintro terminal ⟨other, member, reached⟩
      exact ⟨other, List.mem_cons_of_mem site member, reached⟩

end Blend

theorem Build.written_applyConstructionPresets {created : List (Proc P × ProcSpec)}
    {store after : Store P} (completed : applyConstructionPresets created store = .ok after) :
    Store.Written (fun _ => True) store after := by
  fun_induction applyConstructionPresets created store with
  | case1 store =>
      cases completed
      exact .refl
  | case2 proc spec rest store noPreset inductionHypothesis =>
      exact inductionHypothesis completed
  | case3 proc spec rest store label preset written fault result => cases completed
  | case4 proc spec rest store label preset written result inductionHypothesis =>
      have first : Store.Written (fun _ => True) store (applyClassPreset proc label store).1 := by
        unfold applyClassPreset
        split
        · exact .refl
        · exact (Blend.written_applyVariables _ _ _ _).mono fun _ _ => trivial
      rw [result] at first
      exact first.trans (inductionHypothesis completed)

end SignalNet
