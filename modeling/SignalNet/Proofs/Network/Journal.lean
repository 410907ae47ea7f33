import SignalNet.Proofs.Network.Operation
import SignalNet.Proofs.Network.Schedule

/-!
Contract: the native steps of a run.

The journal of a run records every step of a native proc: which cell was stepped, what
state the step found, and how it ended. A completed run has stepped exactly the cells
that its instructions name, and it announces the end of the stream exactly if one of
the recorded steps did.
-/

set_option autoImplicit false

namespace SignalNet

variable {P : Type} [Processor P]

/-- A step of a native proc: its cell, the state that it found, and its outcome. -/
structure StepRecord (P : Type) where
  slot : Nat
  found : Signals P
  outcome : Except NativeError StepStatus

namespace Signals

/-- What an instruction adds to the journal. Where there is no cell, nothing is stepped. -/
def record? (signals : Signals P) :
    Instruction → Option (StepRecord P)
  | .copy .. => none
  | .step _ _ slot device =>
      (signals.store[slot]?).map fun _ => ⟨slot, signals, (signals.step slot device).2⟩

/-- The native steps of a run in turn. -/
def journal : List Instruction → Signals P → List (StepRecord P)
  | [], _ => []
  | instruction :: rest, signals =>
      (signals.record? instruction).toList ++
        match signals.perform instruction with
        | (after, .ok _) => journal rest after
        | (_, .error _) => []

variable {before middle after : Signals P} {status : StepStatus}

theorem journal_cons {instruction : Instruction} {rest : List Instruction}
    (performed : before.perform instruction = (middle, .ok status)) :
    journal (instruction :: rest) before =
      (before.record? instruction).toList ++ journal rest middle := by
  rw [journal, performed]

theorem journal_append {first second : List Instruction}
    (completes : Completes first before middle status) :
    journal (first ++ second) before =
      journal first before ++ journal second middle := by
  induction first generalizing before status with
  | nil =>
      obtain ⟨rfl, -⟩ := completes_nil.mp completes
      rfl
  | cons instruction rest inductionHypothesis =>
      obtain ⟨next, head, further, performed, others, -⟩ := completes_cons.mp completes
      rw [List.cons_append, journal_cons performed, journal_cons performed,
        inductionHypothesis others, List.append_assoc]

theorem length_perform (signals : Signals P)
    (instruction : Instruction) :
    (signals.perform instruction).1.store.length = signals.store.length := by
  cases instruction with
  | copy proc var source destination =>
      exact (Store.written_writeChannels destination 0 (signals.store.channels source)
        signals.store).length_eq
  | step proc className slot device =>
      simp only [perform, step]
      split
      · rfl
      · exact List.length_set

theorem Completes.length_eq {program : List Instruction}
    (completes : Completes program before after status) :
    after.store.length = before.store.length := by
  induction program generalizing before status with
  | nil =>
      obtain ⟨rfl, -⟩ := completes_nil.mp completes
      rfl
  | cons instruction rest inductionHypothesis =>
      obtain ⟨middle, head, further, performed, others, -⟩ := completes_cons.mp completes
      have first := length_perform before instruction
      rw [performed] at first
      exact (inductionHypothesis others).trans first

theorem exists_record {earlier later : List Instruction} {proc className : String} {slot : Nat}
    {device : Option Nat} (atStep : Completes earlier before middle status)
    (present : slot < before.store.length) :
    ∃ record ∈ journal (earlier ++ .step proc className slot device :: later) before,
      record.slot = slot ∧ record.found = middle := by
  have below : slot < middle.store.length := by
    rw [atStep.length_eq]
    exact present
  refine ⟨⟨slot, middle, (middle.step slot device).2⟩, ?_, rfl, rfl⟩
  rw [journal_append atStep, journal, record?, List.getElem?_eq_getElem below]
  exact List.mem_append_right _ List.mem_cons_self

theorem slots_journal {program : List Instruction}
    (completes : Completes program before after status)
    (present : ∀ slot ∈ steppedBy program, slot < before.store.length) :
    (journal program before).map (·.slot) = steppedBy program := by
  induction program generalizing before status with
  | nil => rfl
  | cons instruction rest inductionHypothesis =>
      obtain ⟨middle, head, further, performed, others, -⟩ := completes_cons.mp completes
      have sameLength := length_perform before instruction
      rw [performed] at sameLength
      have restPresent : ∀ slot ∈ steppedBy rest, slot < middle.store.length := by
        intro slot member
        rw [sameLength]
        apply present slot
        rw [← List.singleton_append, steppedBy_append]
        exact List.mem_append_right _ member
      rw [journal_cons performed, List.map_append, inductionHypothesis others restPresent]
      cases instruction with
      | copy proc var source destination => rfl
      | step proc className slot device =>
          have below : slot < before.store.length := present slot List.mem_cons_self
          simp only [record?, List.getElem?_eq_getElem below]
          rfl

theorem endOfStream_iff_record? {instruction : Instruction}
    (performed : before.perform instruction = (after, .ok status)) :
    status = .endOfStream ↔
      ∃ record ∈ before.record? instruction, record.outcome = .ok .endOfStream := by
  cases instruction with
  | copy proc var source destination =>
      have quiet := (Prod.mk.inj performed).2
      obtain ⟨⟨⟩, -, rfl⟩ := map_eq_ok.mp (mapError_eq_ok.mp quiet)
      simp [record?]
  | step proc className slot device =>
      have outcome : (before.step slot device).2 = .ok status :=
        mapError_eq_ok.mp (Prod.mk.inj performed).2
      cases found : before.store[slot]? with
      | none =>
          simp only [step, found] at outcome
          cases outcome
          simp [record?, found]
      | some cell =>
          simp only [record?, found, Option.map_some, Option.mem_some_iff, exists_eq_left',
            outcome, Except.ok.injEq]

/-- A completed run announces the end of the stream if one of its steps did. -/
theorem endOfStream_iff_journal {program : List Instruction}
    (completes : Completes program before after status) :
    status = .endOfStream ↔
      ∃ record ∈ journal program before, record.outcome = .ok .endOfStream := by
  induction program generalizing before status with
  | nil =>
      obtain ⟨-, rfl⟩ := completes_nil.mp completes
      simp [journal]
  | cons instruction rest inductionHypothesis =>
      obtain ⟨middle, head, further, performed, others, rfl⟩ := completes_cons.mp completes
      have joined : head.or further = .endOfStream ↔
          head = .endOfStream ∨ further = .endOfStream := by
        cases head <;> cases further <;> simp [StepStatus.or]
      rw [joined, endOfStream_iff_record? performed, inductionHypothesis others,
        journal_cons performed]
      simp only [List.mem_append, Option.mem_toList, or_and_right, exists_or]
      rfl

end Signals

end SignalNet
