import SignalNet.Proofs.Network.Written

/-!
Contract: the footprint of a run of instructions.

A run changes only the cells and devices that its instructions name, and what it does
there depends only on the cells and devices that its instructions name, and on the context
that all steps share. Both halves hold for runs that fail as well.

Owns: the footprint of an instruction, agreement of two states on a footprint, the
frame (`run_unchanged`) and the congruence (`run_agree`) of runs, and completed runs
as a relation that splits along the list of instructions.
-/

set_option autoImplicit false

namespace SignalNet

variable {P : Type}

namespace Instruction

/-- The cells that an instruction may change. -/
def changed : Instruction → List Nat
  | .copy _ _ _ destination => destination.map (·.slot)
  | .step _ _ slot _ => [slot]

/-- The cells that an instruction reads or changes. -/
def touched : Instruction → List Nat
  | .copy _ _ source destination => source.map (·.slot) ++ destination.map (·.slot)
  | .step _ _ slot _ => [slot]

/-- The devices that an instruction reads or changes. -/
def devices : Instruction → List Nat
  | .copy .. => []
  | .step _ _ _ device => device.toList

end Instruction

/-! ## Agreement -/

/-- Two stores hold the same cells in some slots. -/
def Store.AgreeOn (slots : List Nat) (left right : Store P) : Prop :=
  ∀ slot ∈ slots, left[slot]? = right[slot]?

/-- Two states hold the same cells in some slots and the same devices at some positions, and
their steps know the same. -/
structure Signals.AgreeOn (slots devices : List Nat) (left right : Signals P) : Prop where
  cells : left.store.AgreeOn slots right.store
  devices : ∀ device ∈ devices, left.devices[device]? = right.devices[device]?
  context : left.context = right.context

theorem getElem?_set_congr {α : Type} {left right : List α} {index position : Nat} (value : α)
    (here : left[index]? = right[index]?) (there : left[position]? = right[position]?) :
    (left.set index value)[position]? = (right.set index value)[position]? := by
  rw [List.getElem?_set', List.getElem?_set']
  split
  · rename_i same
    subst same
    rw [here]
  · exact there

namespace Store

variable {slots : List Nat} {left right : Store P}

theorem AgreeOn.set (agreement : AgreeOn slots left right) {slot : Nat} (member : slot ∈ slots)
    (cell : Cell P) : AgreeOn slots (left.set slot cell) (right.set slot cell) := by
  intro other otherMember
  exact getElem?_set_congr cell (agreement slot member) (agreement other otherMember)

theorem AgreeOn.channels (agreement : AgreeOn slots left right) {terminals : List Terminal}
    (included : ∀ terminal ∈ terminals, terminal.slot ∈ slots) :
    Store.channels left terminals = Store.channels right terminals := by
  cases terminals with
  | nil => rfl
  | cons terminal rest =>
      simp only [Store.channels, Store.bank?]
      rw [agreement terminal.slot (included terminal List.mem_cons_self)]

variable [Processor P]

theorem AgreeOn.write (agreement : AgreeOn slots left right) (notify : Bool) (ch : Nat)
    (value : Value) (terminals : List Terminal)
    (included : ∀ terminal ∈ terminals, terminal.slot ∈ slots) :
    (Store.write notify ch value terminals left).2 =
        (Store.write notify ch value terminals right).2 ∧
      AgreeOn slots (Store.write notify ch value terminals left).1
        (Store.write notify ch value terminals right).1 := by
  induction terminals generalizing left right with
  | nil => exact ⟨rfl, agreement⟩
  | cons terminal rest inductionHypothesis =>
      have present := included terminal List.mem_cons_self
      have restIncluded : ∀ other ∈ rest, other.slot ∈ slots := fun other member =>
        included other (List.mem_cons_of_mem _ member)
      rw [Store.write, Store.write, ← agreement terminal.slot present]
      cases left[terminal.slot]? with
      | none => exact inductionHypothesis agreement restIncluded
      | some cell =>
          dsimp only
          cases cell.write notify terminal.var ch value with
          | error fault => exact ⟨rfl, agreement⟩
          | ok stored =>
              cases stored with
              | none => exact inductionHypothesis agreement restIncluded
              | some changed =>
                  have both := inductionHypothesis (agreement.set present changed) restIncluded
                  exact ⟨by dsimp only; rw [both.1], both.2⟩

theorem AgreeOn.writeChannels (agreement : AgreeOn slots left right) (terminals : List Terminal)
    (ch : Nat) (values : List Value)
    (included : ∀ terminal ∈ terminals, terminal.slot ∈ slots) :
    (Store.writeChannels terminals ch values left).2 =
        (Store.writeChannels terminals ch values right).2 ∧
      AgreeOn slots (Store.writeChannels terminals ch values left).1
        (Store.writeChannels terminals ch values right).1 := by
  induction values generalizing left right ch with
  | nil => exact ⟨rfl, agreement⟩
  | cons value rest inductionHypothesis =>
      obtain ⟨sameOutcome, sameCells⟩ := agreement.write false ch value terminals included
      rw [Store.writeChannels, Store.writeChannels]
      cases leftResult : Store.write false ch value terminals left with
      | mk leftStore leftOutcome =>
          cases rightResult : Store.write false ch value terminals right with
          | mk rightStore rightOutcome =>
              rw [leftResult, rightResult] at sameOutcome sameCells
              dsimp only at sameOutcome sameCells
              subst sameOutcome
              cases leftOutcome with
              | error fault => exact ⟨rfl, sameCells⟩
              | ok written => exact inductionHypothesis sameCells (ch + 1)

end Store

namespace Signals

variable [Processor P] {slots devices : List Nat} {left right : Signals P}

/-! ## One instruction -/

theorem perform_unchanged (signals : Signals P)
    (instruction : Instruction) {slot : Nat} (outside : slot ∉ instruction.changed) :
    (signals.perform instruction).1.store[slot]? = signals.store[slot]? := by
  cases instruction with
  | copy proc var source destination =>
      have written := Store.written_writeChannels destination 0
        (signals.store.channels source) signals.store
      apply written.unchanged
      intro terminal member same
      exact outside (List.mem_map.mpr ⟨terminal, member, same⟩)
  | step proc className stepped device =>
      have different : stepped ≠ slot := fun same =>
        outside (same ▸ List.mem_singleton_self stepped)
      simp only [perform, step]
      split
      · rfl
      · exact List.getElem?_set_ne different

theorem perform_devices_unchanged (signals : Signals P)
    (instruction : Instruction) {device : Nat} (outside : device ∉ instruction.devices) :
    (signals.perform instruction).1.devices[device]? = signals.devices[device]? := by
  cases instruction with
  | copy proc var source destination => rfl
  | step proc className stepped bound =>
      simp only [perform, step]
      split
      · rfl
      · cases bound with
        | none => rfl
        | some position =>
            have different : position ≠ device := fun same =>
              outside (same ▸ List.mem_singleton_self position)
            simp only [putDevice]
            split
            · rename_i same _
              cases same
              exact List.getElem?_set_ne different
            · rfl

/-- What an instruction does depends only on what it names and on the context. -/
theorem perform_agree (agreement : AgreeOn slots devices left right)
    (instruction : Instruction) (cells : ∀ slot ∈ instruction.touched, slot ∈ slots)
    (bound : ∀ device ∈ instruction.devices, device ∈ devices) :
    (left.perform instruction).2 = (right.perform instruction).2 ∧
      AgreeOn slots devices (left.perform instruction).1
        (right.perform instruction).1 := by
  cases instruction with
  | copy proc var source destination =>
      have sourceIncluded : ∀ terminal ∈ source, terminal.slot ∈ slots := fun terminal member =>
        cells _ (List.mem_append_left _ (List.mem_map_of_mem member))
      have destinationIncluded : ∀ terminal ∈ destination, terminal.slot ∈ slots :=
        fun terminal member => cells _ (List.mem_append_right _ (List.mem_map_of_mem member))
      obtain ⟨sameOutcome, sameCells⟩ := agreement.cells.writeChannels destination 0
        (left.store.channels source) destinationIncluded
      simp only [perform, copy]
      rw [← agreement.cells.channels sourceIncluded]
      exact ⟨by rw [sameOutcome], sameCells, agreement.devices, agreement.context⟩
  | step proc className slot device =>
      have present := cells slot (List.mem_singleton_self slot)
      have sameDevice : device.bind (left.devices[·]?) = device.bind (right.devices[·]?) := by
        cases device with
        | none => rfl
        | some position => exact agreement.devices position (bound position (by
            exact List.mem_singleton_self position))
      simp only [perform, step]
      rw [← agreement.cells slot present, ← sameDevice, ← agreement.context]
      cases left.store[slot]? with
      | none => exact ⟨rfl, agreement⟩
      | some cell =>
          refine ⟨rfl, agreement.cells.set present _, ?_, rfl⟩
          intro position member
          cases device with
          | none => exact agreement.devices position member
          | some index =>
              simp only [putDevice]
              split
              · rename_i same _
                cases same
                exact getElem?_set_congr _
                  (agreement.devices index (bound index (List.mem_singleton_self index)))
                  (agreement.devices position member)
              · exact agreement.devices position member

/-! ## Runs -/

theorem run_unchanged (status : StepStatus)
    (program : List Instruction) (signals : Signals P) {slot : Nat}
    (outside : ∀ instruction ∈ program, slot ∉ instruction.changed) :
    (run status program signals).1.store[slot]? = signals.store[slot]? := by
  induction program generalizing status signals with
  | nil => rfl
  | cons instruction rest inductionHypothesis =>
      have first := perform_unchanged signals instruction
        (outside instruction List.mem_cons_self)
      have restOutside : ∀ other ∈ rest, slot ∉ other.changed := fun other member =>
        outside other (List.mem_cons_of_mem _ member)
      rw [run]
      split <;> rename_i result <;> rw [result] at first
      · exact first
      · exact (inductionHypothesis _ _ restOutside).trans first

theorem run_devices_unchanged (status : StepStatus)
    (program : List Instruction) (signals : Signals P) {device : Nat}
    (outside : ∀ instruction ∈ program, device ∉ instruction.devices) :
    (run status program signals).1.devices[device]? = signals.devices[device]? := by
  induction program generalizing status signals with
  | nil => rfl
  | cons instruction rest inductionHypothesis =>
      have first := perform_devices_unchanged signals instruction
        (outside instruction List.mem_cons_self)
      have restOutside : ∀ other ∈ rest, device ∉ other.devices := fun other member =>
        outside other (List.mem_cons_of_mem _ member)
      rw [run]
      split <;> rename_i result <;> rw [result] at first
      · exact first
      · exact (inductionHypothesis _ _ restOutside).trans first

/-- What a run does depends only on what its instructions name and on the context. -/
theorem run_agree (status : StepStatus)
    (agreement : AgreeOn slots devices left right) (program : List Instruction)
    (cells : ∀ instruction ∈ program, ∀ slot ∈ instruction.touched, slot ∈ slots)
    (bound : ∀ instruction ∈ program, ∀ device ∈ instruction.devices, device ∈ devices) :
    (run status program left).2 = (run status program right).2 ∧
      AgreeOn slots devices (run status program left).1
        (run status program right).1 := by
  induction program generalizing status left right with
  | nil => exact ⟨rfl, agreement⟩
  | cons instruction rest inductionHypothesis =>
      obtain ⟨sameOutcome, after⟩ := perform_agree agreement instruction
        (cells instruction List.mem_cons_self) (bound instruction List.mem_cons_self)
      have restCells : ∀ other ∈ rest, ∀ slot ∈ other.touched, slot ∈ slots :=
        fun other member => cells other (List.mem_cons_of_mem _ member)
      have restBound : ∀ other ∈ rest, ∀ device ∈ other.devices, device ∈ devices :=
        fun other member => bound other (List.mem_cons_of_mem _ member)
      rw [run, run]
      cases leftResult : left.perform instruction with
      | mk leftAfter leftOutcome =>
          cases rightResult : right.perform instruction with
          | mk rightAfter rightOutcome =>
              rw [leftResult, rightResult] at sameOutcome after
              dsimp only at sameOutcome after
              subst sameOutcome
              cases leftOutcome with
              | error fault => exact ⟨rfl, after⟩
              | ok next => exact inductionHypothesis (status.or next) after restCells restBound

end Signals

/-! ## Completed runs -/

namespace StepStatus

@[simp] theorem proceed_or (status : StepStatus) : StepStatus.proceed.or status = status := rfl

@[simp] theorem or_proceed (status : StepStatus) : status.or .proceed = status := by
  cases status <;> rfl

theorem or_assoc (first second third : StepStatus) :
    (first.or second).or third = first.or (second.or third) := by
  cases first <;> rfl

theorem or_comm (first second : StepStatus) : first.or second = second.or first := by
  cases first <;> cases second <;> rfl

end StepStatus

namespace Signals

variable [Processor P]

/-- A run that starts without an announced end completes with a status. -/
def Completes (program : List Instruction)
    (before after : Signals P) (status : StepStatus) : Prop :=
  run .proceed program before = (after, .ok status)

/-- An announced end does not influence a run; it only joins the status in the end. -/
theorem run_eq_ok_iff {program : List Instruction}
    {before after : Signals P} {announced status : StepStatus} :
    run announced program before = (after, .ok status) ↔
      ∃ further, Completes program before after further ∧
        status = announced.or further := by
  unfold Completes
  induction program generalizing announced status before with
  | nil => simp [run, eq_comm]
  | cons instruction rest inductionHypothesis =>
      rw [run, run]
      cases before.perform instruction with
      | mk middle outcome =>
          cases outcome with
          | error fault => simp
          | ok next =>
              dsimp only
              rw [inductionHypothesis]
              simp only [StepStatus.proceed_or]
              constructor
              · rintro ⟨further, completes, rfl⟩
                exact ⟨next.or further, inductionHypothesis.mpr ⟨further, completes, rfl⟩,
                  StepStatus.or_assoc _ _ _⟩
              · rintro ⟨further, completes, rfl⟩
                obtain ⟨last, completesRest, rfl⟩ := inductionHypothesis.mp completes
                exact ⟨last, completesRest, (StepStatus.or_assoc _ _ _).symm⟩

variable {before after : Signals P} {status : StepStatus}

theorem completes_nil : Completes [] before after status ↔
    after = before ∧ status = .proceed := by
  simp [Completes, run, eq_comm]

theorem completes_cons {instruction : Instruction} {rest : List Instruction} :
    Completes (instruction :: rest) before after status ↔
      ∃ middle first further, before.perform instruction = (middle, .ok first) ∧
        Completes rest middle after further ∧ status = first.or further := by
  rw [Completes, run]
  cases before.perform instruction with
  | mk middle outcome =>
      cases outcome with
      | error fault => simp
      | ok first =>
          dsimp only
          rw [run_eq_ok_iff, StepStatus.proceed_or]
          constructor
          · rintro ⟨further, completes, joined⟩
            exact ⟨middle, first, further, rfl, completes, joined⟩
          · rintro ⟨_, _, further, ⟨⟩, completes, joined⟩
            exact ⟨further, completes, joined⟩

theorem completes_append {first second : List Instruction} :
    Completes (first ++ second) before after status ↔
      ∃ middle early late, Completes first before middle early ∧
        Completes second middle after late ∧ status = early.or late := by
  induction first generalizing before status with
  | nil => simp [completes_nil]
  | cons instruction rest inductionHypothesis =>
      simp only [List.cons_append, completes_cons, inductionHypothesis]
      constructor
      · rintro ⟨next, head, _, performed, ⟨middle, early, late, atFirst, atSecond, rfl⟩, rfl⟩
        exact ⟨middle, head.or early, late, ⟨next, head, early, performed, atFirst, rfl⟩,
          atSecond, (StepStatus.or_assoc _ _ _).symm⟩
      · rintro ⟨middle, _, late, ⟨next, head, early, performed, atFirst, rfl⟩, atSecond, rfl⟩
        exact ⟨next, head, early.or late, performed,
          ⟨middle, early, late, atFirst, atSecond, rfl⟩, StepStatus.or_assoc _ _ _⟩

end Signals

end SignalNet
