import SignalNet.Proofs.Network.Dataflow
import SignalNet.Proofs.Network.Notices

/-!
Contract: what a cycle that fails leaves behind.

The list of instructions hides where in the tree of procs a cycle stopped. `Halts` unfolds it
again: in the network the cycle stopped at one proc, in front of which everything completed; that
proc could not be fed, or failed in its step, or is a subnet that was fed and in which the cycle
stopped in turn. Of each of these levels, the procs in front are as the completed part of the
order leaves them, and the procs behind are as they were when the level was entered.

A level inside a subnet is entered after the connections of the subnet have been copied. They
reach through the variables of the subnet to procs that the cycle may never get to.

Owns: runs that fail (`Signals.Fails`), the stops of a failed run (`Halts`, `fails_iff_halts`), and
what is left around each of them (`Stop.Left`, `Halts.left`).
-/

set_option autoImplicit false

namespace SignalNet

variable {P : Type}

/-! ## Runs that fail -/

namespace Signals

variable [Processor P]

/-- A run that starts without an announced end stops with a fault. -/
def Fails (program : List Instruction) (before after : Signals P)
    (fault : CycleError) : Prop :=
  run .proceed program before = (after, .error fault)

variable {before after : Signals P} {fault : CycleError}

/-- Whether and how a run fails does not depend on an announced end. -/
theorem run_eq_error_iff {program : List Instruction} {announced : StepStatus} :
    run announced program before = (after, .error fault) ↔
      Fails program before after fault := by
  unfold Fails
  induction program generalizing announced before with
  | nil => simp [run]
  | cons instruction rest inductionHypothesis =>
      rw [run, run]
      cases before.perform instruction with
      | mk middle outcome =>
          cases outcome with
          | error fault => exact Iff.rfl
          | ok next => exact inductionHypothesis.trans inductionHypothesis.symm

theorem not_fails_nil : ¬Fails [] before after fault := by
  simp [Fails, run]

theorem fails_cons {instruction : Instruction} {rest : List Instruction} :
    Fails (instruction :: rest) before after fault ↔
      before.perform instruction = (after, .error fault) ∨
        ∃ middle first, before.perform instruction = (middle, .ok first) ∧
          Fails rest middle after fault := by
  rw [Fails, run]
  cases before.perform instruction with
  | mk middle outcome =>
      cases outcome with
      | error other => simp
      | ok first =>
          dsimp only
          rw [run_eq_error_iff]
          simp

/-- A run fails in its first part, or completes that and fails in the second one. -/
theorem fails_append {first second : List Instruction} :
    Fails (first ++ second) before after fault ↔
      Fails first before after fault ∨
        ∃ middle status, Completes first before middle status ∧
          Fails second middle after fault := by
  induction first generalizing before with
  | nil => simp [not_fails_nil, completes_nil]
  | cons instruction rest inductionHypothesis =>
      rw [List.cons_append, fails_cons, fails_cons]
      simp only [inductionHypothesis, completes_cons]
      constructor
      · rintro (failed | ⟨next, head, performed, failed | ⟨middle, status, completed, failed⟩⟩)
        · exact .inl (.inl failed)
        · exact .inl (.inr ⟨next, head, performed, failed⟩)
        · exact .inr ⟨middle, _, ⟨next, head, status, performed, completed, rfl⟩, failed⟩
      · rintro ((failed | ⟨next, head, performed, failed⟩) |
          ⟨middle, _, ⟨next, head, status, performed, completed, rfl⟩, failed⟩)
        · exact .inl failed
        · exact .inr ⟨next, head, performed, .inl failed⟩
        · exact .inr ⟨next, head, performed, .inr ⟨middle, status, completed, failed⟩⟩

/-- A run over the blocks of some positions fails in one of them, after those in front. -/
theorem fails_flatMap {order : List Nat} {block : Nat → List Instruction} :
    Fails (order.flatMap block) before after fault ↔
      ∃ earlier position later reached status, order = earlier ++ position :: later ∧
        Completes (earlier.flatMap block) before reached status ∧
          Fails (block position) reached after fault := by
  constructor
  · intro failed
    induction order generalizing before with
    | nil => exact absurd failed not_fails_nil
    | cons head rest inductionHypothesis =>
        rw [List.flatMap_cons] at failed
        rcases fails_append.mp failed with atHead | ⟨middle, first, completed, behind⟩
        · exact ⟨[], head, rest, before, .proceed, rfl, completes_nil.mpr ⟨rfl, rfl⟩, atHead⟩
        · obtain ⟨earlier, position, later, reached, status, rfl, arrived, atPosition⟩ :=
            inductionHypothesis behind
          refine ⟨head :: earlier, position, later, reached, first.or status, rfl, ?_, atPosition⟩
          rw [List.flatMap_cons]
          exact completes_append.mpr ⟨middle, first, status, completed, arrived, rfl⟩
  · rintro ⟨earlier, position, later, reached, status, rfl, arrived, atPosition⟩
    rw [List.flatMap_append, List.flatMap_cons]
    exact fails_append.mpr (.inr ⟨reached, status, arrived, fails_append.mpr (.inl atPosition)⟩)

/-- It is one of the instructions that fails. -/
theorem Fails.exists_instruction {program : List Instruction}
    (failed : Fails program before after fault) :
    ∃ instruction ∈ program, ∃ reached : Signals P,
      reached.perform instruction = (after, .error fault) := by
  induction program generalizing before with
  | nil => exact absurd failed not_fails_nil
  | cons instruction rest inductionHypothesis =>
      rcases fails_cons.mp failed with here | ⟨middle, first, -, behind⟩
      · exact ⟨instruction, List.mem_cons_self, before, here⟩
      · obtain ⟨other, listed, reached, performed⟩ := inductionHypothesis behind
        exact ⟨other, List.mem_cons_of_mem _ listed, reached, performed⟩

/-- Cells that a program cannot change are as they were, also when it fails. -/
theorem Fails.unchanged {program : List Instruction}
    (failed : Fails program before after fault) {slot : Nat}
    (outside : ∀ instruction ∈ program, slot ∉ instruction.changed) :
    after.store[slot]? = before.store[slot]? := by
  have kept := run_unchanged .proceed program before outside
  rwa [failed] at kept

end Signals

/-! ## What connections leave alone -/

/-- A cell is as it was, apart from some of its variables. -/
structure Store.KeptBut (fed : Terminal → Prop) (slot : Nat) (before after : Store P) : Prop where
  processor : after[slot]?.map (·.processor) = before[slot]?.map (·.processor)
  vars : ∀ var, ¬fed ⟨slot, var⟩ →
    (after.bank? slot).bind (·.vars[var]?) = (before.bank? slot).bind (·.vars[var]?)

namespace Store

variable {fed larger : Terminal → Prop} {slot : Nat} {before middle after : Store P}

theorem KeptBut.of_eq (same : after[slot]? = before[slot]?) : KeptBut fed slot before after := by
  refine ⟨by rw [same], fun var _ => ?_⟩
  rw [bank?, bank?, same]

theorem KeptBut.trans (first : KeptBut fed slot before middle)
    (second : KeptBut fed slot middle after) : KeptBut fed slot before after :=
  ⟨second.processor.trans first.processor,
    fun var free => (second.vars var free).trans (first.vars var free)⟩

theorem KeptBut.mono (kept : KeptBut fed slot before after)
    (included : ∀ terminal, fed terminal → larger terminal) :
    KeptBut larger slot before after :=
  ⟨kept.processor, fun var free => kept.vars var fun isFed => free (included _ isFed)⟩

theorem vars_unchanged [Processor P] (written : Written fed before after) {var : Nat}
    (free : ¬fed ⟨slot, var⟩) :
    (after.bank? slot).bind (·.vars[var]?) = (before.bank? slot).bind (·.vars[var]?) := by
  induction written with
  | refl => rfl
  | @assign store terminal cell changed notify ch value _ allowed found stored
      inductionHypothesis =>
      rw [← inductionHypothesis]
      rcases Decidable.eq_or_ne terminal.slot slot with rfl | elsewhere
      · have different : terminal.var ≠ var := fun same => free (same ▸ allowed)
        rcases Cell.write_eq_ok.mp stored with
          ⟨-, absent⟩ | ⟨place, held, processor, -, -, -, isChanged⟩
        · cases absent
        · cases isChanged
          rw [bank?, bank?, found,
            List.getElem?_set_self (List.getElem?_eq_some_iff.mp found).1]
          exact List.getElem?_modify_ne _ _ different
      · rw [bank?, bank?, List.getElem?_set_ne elsewhere]

end Store

section

variable [Processor P]

/-- Copies change nothing of a cell but the variables that they lead to. -/
theorem Signals.keptBut_of_copies {copies : List Instruction} {fed : Terminal → Prop}
    (onlyCopies : ∀ instruction ∈ copies, ∃ proc var source destination,
      instruction = .copy proc var source destination ∧ ∀ terminal ∈ destination, fed terminal)
    {before after : Signals P} {status : StepStatus}
    (completed : Completes copies before after status) (slot : Nat) :
    Store.KeptBut fed slot before.store after.store := by
  induction copies generalizing before status with
  | nil =>
      obtain ⟨rfl, -⟩ := completes_nil.mp completed
      exact .of_eq rfl
  | cons instruction rest inductionHypothesis =>
      obtain ⟨middle, first, further, performed, behind, -⟩ := completes_cons.mp completed
      obtain ⟨proc, var, source, destination, rfl, leads⟩ :=
        onlyCopies instruction List.mem_cons_self
      have isMiddle : (before.perform (.copy proc var source destination)).1 = middle :=
        congrArg Prod.fst performed
      have written : Store.Written fed before.store middle.store :=
        isMiddle ▸ (Store.written_writeChannels destination 0 _ _).mono leads
      have silent : middle.store.processors = before.store.processors :=
        isMiddle ▸ processors_copy before proc var source destination
      have kept : Store.KeptBut fed slot before.store middle.store := by
        refine ⟨?_, fun var free => Store.vars_unchanged written free⟩
        rw [← List.getElem?_map, ← List.getElem?_map]
        exact congrArg (·[slot]?) silent
      exact kept.trans (inductionHypothesis
        (fun other listed => onlyCopies other (List.mem_cons_of_mem _ listed)) behind)

end

/-! ## Stops -/

/-- Where a cycle stopped in a level: the proc it stopped at, those in front of it and those behind
it, and the signals with which it entered the level and with which it reached the proc. -/
structure Stop (P : Type) where
  level : Level P
  earlier : List Nat
  position : Nat
  later : List Nat
  entry : Signals P
  reached : Signals P

namespace Stop

/-- The level of a stop as if only the procs in front of the stop were to be stepped. -/
def front (stop : Stop P) : Level P :=
  ⟨stop.level.procs, stop.earlier, stop.level.presets⟩

/-- A connection of the proc that the cycle stopped at leads to a native variable. -/
def Feeds (stop : Stop P) (terminal : Terminal) : Prop :=
  ∃ proc, stop.level.procs[stop.position]? = some proc ∧
    ∃ connection ∈ proc.head.inputs, terminal ∈ proc.terminals connection.destination

theorem program_front (stop : Stop P) :
    stop.front.program = stop.earlier.flatMap stop.level.block :=
  stop.front.program_eq_flatMap

variable [Processor P]

/-- A stop is at a proc of its level, and the procs in front of it complete. -/
structure At (stop : Stop P) (proc : Proc P) : Prop where
  split : stop.level.order = stop.earlier ++ stop.position :: stop.later
  found : stop.level.procs[stop.position]? = some proc
  arrived : ∃ status, Signals.Completes stop.front.program stop.entry stop.reached status

end Stop

variable [Processor P]

/-- A cycle stops in a level with a fault. The stops are listed from the outside to the inside. -/
inductive Halts :
    Level P → Signals P → Signals P → CycleError → List (Stop P) → Prop where
  /-- A connection of the proc cannot be copied. -/
  | input {stop : Stop P} {proc : Proc P} {final : Signals P} {fault : CycleError}
      (located : stop.At proc)
      (refused : Signals.Fails (proc.copies stop.level.procs) stop.reached final fault) :
      Halts stop.level stop.entry final fault [stop]
  /-- The proc is native and fails. -/
  | step {stop : Stop P} {head : ProcHead P} {slot : Nat} {fed final : Signals P}
      {status : StepStatus} {fault : CycleError} (located : stop.At (.native head slot))
      (copied : Signals.Completes ((Proc.native head slot).copies stop.level.procs)
        stop.reached fed status)
      (failed : Signals.Fails (Proc.native head slot).program fed final fault) :
      Halts stop.level stop.entry final fault [stop]
  /-- The proc is a subnet, and the cycle stops inside. -/
  | inside {stop : Stop P} {proc : Proc P} {below : Level P} {fed final : Signals P}
      {status : StepStatus} {fault : CycleError} {stops : List (Stop P)}
      (located : stop.At proc) (isSubnet : proc.inner? = some below)
      (copied : Signals.Completes (proc.copies stop.level.procs) stop.reached fed status)
      (deeper : Halts below fed final fault stops) :
      Halts stop.level stop.entry final fault (stop :: stops)

variable {level : Level P} {entry final : Signals P} {fault : CycleError}
  {stops : List (Stop P)}

namespace Level

theorem fails_iff_exists_stop :
    Signals.Fails level.program entry final fault ↔
      ∃ (stop : Stop P) (proc : Proc P), stop.level = level ∧ stop.entry = entry ∧
        stop.At proc ∧
          Signals.Fails (level.block stop.position) stop.reached final fault := by
  rw [program_eq_flatMap, Signals.fails_flatMap]
  constructor
  · rintro ⟨earlier, position, later, reached, status, split, arrived, failed⟩
    have listed : ∃ proc, level.procs[position]? = some proc := by
      obtain ⟨instruction, member, -⟩ := failed.exists_instruction
      obtain ⟨proc, found, -⟩ := mem_block member
      exact ⟨proc, found⟩
    obtain ⟨proc, found⟩ := listed
    let stop : Stop P := ⟨level, earlier, position, later, entry, reached⟩
    exact ⟨stop, proc, rfl, rfl, ⟨split, found, status, stop.program_front ▸ arrived⟩, failed⟩
  · rintro ⟨stop, proc, rfl, rfl, ⟨split, found, status, arrived⟩, failed⟩
    exact ⟨_, _, _, _, status, split, stop.program_front ▸ arrived, failed⟩

/-- A cycle that fails in a level stops somewhere, if that is so for the subnets of the level. -/
theorem exists_halts_of_fails
    (inner : ∀ proc ∈ level.procs, ∀ below, proc.inner? = some below →
      ∀ (fed final : Signals P), Signals.Fails below.program fed final fault →
        ∃ stops, Halts below fed final fault stops)
    (failed : Signals.Fails level.program entry final fault) :
    ∃ stops, Halts level entry final fault stops := by
  obtain ⟨stop, proc, rfl, rfl, located, atBlock⟩ := fails_iff_exists_stop.mp failed
  rw [block_of_getElem? located.found] at atBlock
  rcases Signals.fails_append.mp atBlock with refused | ⟨fed, status, copied, within⟩
  · exact ⟨_, .input located refused⟩
  · cases isProc : proc with
    | native head slot =>
        subst isProc
        exact ⟨_, .step located copied within⟩
    | subnet head procs order presets forwards =>
        have isSubnet : proc.inner? = some ⟨procs, order, presets⟩ := isProc ▸ rfl
        rw [proc.program_of_inner? isSubnet] at within
        obtain ⟨stops, deeper⟩ :=
          inner proc (List.mem_of_getElem? located.found) _ isSubnet fed final within
        exact ⟨_, .inside located isSubnet copied deeper⟩

end Level

/-- What a subnet does fails only if the cycle stops somewhere inside. -/
theorem Proc.exists_halts_of_fails (proc : Proc P) {below : Level P}
    (isSubnet : proc.inner? = some below) {fed final : Signals P}
    (failed : Signals.Fails below.program fed final fault) :
    ∃ stops, Halts below fed final fault stops := by
  induction proc generalizing below fed final with
  | native head slot => cases isSubnet
  | subnet head procs order presets forwards inductionHypothesis =>
      cases isSubnet
      exact Level.exists_halts_of_fails
        (fun proc member below isSubnet fed final failed =>
          inductionHypothesis proc member isSubnet failed) failed

namespace Halts

/-- The outermost stop is in the level itself, and the cycle fails in the block of its proc. -/
theorem exists_cons (halts : Halts level entry final fault stops) :
    ∃ stop proc deeper, stops = stop :: deeper ∧ stop.level = level ∧ stop.entry = entry ∧
      stop.At proc ∧
        Signals.Fails (level.block stop.position) stop.reached final fault := by
  induction halts with
  | input located refused =>
      refine ⟨_, _, [], rfl, rfl, rfl, located, ?_⟩
      rw [Level.block_of_getElem? located.found]
      exact Signals.fails_append.mpr (.inl refused)
  | step located copied failed =>
      refine ⟨_, _, [], rfl, rfl, rfl, located, ?_⟩
      rw [Level.block_of_getElem? located.found]
      exact Signals.fails_append.mpr (.inr ⟨_, _, copied, failed⟩)
  | @inside stop proc below fed final status fault stops located isSubnet copied _
      inductionHypothesis =>
      obtain ⟨inner, inside, -, -, sameLevel, sameEntry, innerLocated, innerFailed⟩ :=
        inductionHypothesis
      have failed : Signals.Fails below.program fed final fault :=
        Level.fails_iff_exists_stop.mpr
          ⟨inner, inside, sameLevel, sameEntry, innerLocated, innerFailed⟩
      refine ⟨_, _, stops, rfl, rfl, rfl, located, ?_⟩
      rw [Level.block_of_getElem? located.found, proc.program_of_inner? isSubnet]
      exact Signals.fails_append.mpr (.inr ⟨_, _, copied, failed⟩)

end Halts

/-- The run of a level fails exactly if it stops somewhere in it. -/
theorem fails_iff_halts : Signals.Fails level.program entry final fault ↔
    ∃ stops, Halts level entry final fault stops := by
  constructor
  · exact Level.exists_halts_of_fails fun proc _ below isSubnet fed final failed =>
      proc.exists_halts_of_fails isSubnet failed
  · rintro ⟨stops, halts⟩
    obtain ⟨stop, proc, -, -, sameLevel, sameEntry, located, failed⟩ := halts.exists_cons
    exact Level.fails_iff_exists_stop.mpr ⟨stop, proc, sameLevel, sameEntry, located, failed⟩

/-! ## The proc that a fault names -/

/-- The label of the proc that could not be stepped, if it is a proc that failed. -/
def CycleError.proc? : CycleError → Option String
  | .step proc _ _ => some proc
  | .input proc _ _ => some proc
  | .overrun _ => none

/-- The proc that an instruction belongs to. -/
def Instruction.proc : Instruction → String
  | .copy proc _ _ _ => proc
  | .step proc _ _ _ => proc

theorem Signals.proc_of_perform {signals after : Signals P} {instruction : Instruction}
    (failed : signals.perform instruction = (after, .error fault)) :
    fault.proc? = some instruction.proc := by
  cases instruction with
  | copy proc var source destination =>
      obtain ⟨cause, -, rfl⟩ := mapError_eq_error.mp (congrArg Prod.snd failed)
      rfl
  | step proc className slot device =>
      obtain ⟨cause, -, rfl⟩ := mapError_eq_error.mp (congrArg Prod.snd failed)
      rfl

/-- The fault of a cycle names the proc of the innermost stop. -/
theorem Halts.names (halts : Halts level entry final fault stops) :
    ∃ stop proc, stops.getLast? = some stop ∧ stop.level.procs[stop.position]? = some proc ∧
      fault.proc? = some proc.label := by
  induction halts with
  | input located refused =>
      obtain ⟨instruction, member, reached, failed⟩ := refused.exists_instruction
      obtain ⟨connection, -, rfl⟩ := List.mem_map.mp member
      exact ⟨_, _, rfl, located.found, Signals.proc_of_perform failed⟩
  | step located _ failed =>
      obtain ⟨instruction, member, reached, failed⟩ := failed.exists_instruction
      rw [Proc.program, List.mem_singleton] at member
      subst member
      exact ⟨_, _, rfl, located.found, Signals.proc_of_perform failed⟩
  | inside _ _ _ deeper inductionHypothesis =>
      obtain ⟨stop, proc, isLast, found, named⟩ := inductionHypothesis
      exact ⟨stop, proc, by rw [List.getLast?_cons, isLast]; rfl, found, named⟩

/-! ## What is left -/

namespace Stop

variable {stop : Stop P} {proc other : Proc P} {position slot : Nat}

/-- Feeding the proc of a stop changes only what its connections lead to. -/
theorem At.keptBut_fed (located : stop.At proc) {fed : Signals P} {status : StepStatus}
    (copied : Signals.Completes (proc.copies stop.level.procs) stop.reached fed status)
    (slot : Nat) : Store.KeptBut stop.Feeds slot stop.reached.store fed.store := by
  refine Signals.keptBut_of_copies (fun instruction member => ?_) copied slot
  obtain ⟨connection, listed, rfl⟩ := List.mem_map.mp member
  exact ⟨_, _, _, _, rfl, fun terminal leads => ⟨proc, located.found, connection, listed, leads⟩⟩

/-- The way to a stop leaves the procs alone that are not in front of it. -/
theorem At.reached_eq_entry (located : stop.At proc) (nodup : stop.level.slots.Nodup)
    (notEarlier : position ∉ stop.earlier) (found : stop.level.procs[position]? = some other)
    (own : slot ∈ other.slots) : stop.reached.store[slot]? = stop.entry.store[slot]? := by
  obtain ⟨status, arrived⟩ := located.arrived
  rw [program_front] at arrived
  refine arrived.unchanged fun instruction member changed => ?_
  obtain ⟨running, isEarlier, inBlock⟩ := List.mem_flatMap.mp member
  have different : running ≠ position := fun same => notEarlier (same ▸ isEarlier)
  exact Level.not_changed_block nodup found different inBlock changed own

/-- Until a proc has been fed, it changes only in what its connections lead to. -/
theorem At.keptBut_entry (located : stop.At proc) (nodup : stop.level.slots.Nodup)
    (ordered : stop.level.Ordered) {fed : Signals P} {status : StepStatus}
    (copied : Signals.Completes (proc.copies stop.level.procs) stop.reached fed status)
    (own : slot ∈ proc.slots) :
    Store.KeptBut stop.Feeds slot stop.entry.store fed.store := by
  have distinct := (ordered stop.level (.self _)).nodup
  rw [located.split, List.nodup_append] at distinct
  have notEarlier : stop.position ∉ stop.earlier := fun isEarlier =>
    distinct.2.2 _ isEarlier _ List.mem_cons_self rfl
  exact (Store.KeptBut.of_eq (located.reached_eq_entry nodup notEarlier located.found own)).trans
    (located.keptBut_fed copied slot)

/-- What fails in the block of one proc leaves the other procs alone. -/
theorem final_eq_reached (nodup : stop.level.slots.Nodup)
    (failed : Signals.Fails (stop.level.block stop.position) stop.reached final fault)
    (different : position ≠ stop.position) (found : stop.level.procs[position]? = some other)
    (own : slot ∈ other.slots) : final.store[slot]? = stop.reached.store[slot]? :=
  failed.unchanged fun _ inBlock changed =>
    Level.not_changed_block nodup found different.symm inBlock changed own

/-- What a cycle that stopped in a level has left there. Around the level are the stops that led
into it. -/
structure Left (stop : Stop P) (before final : Signals P)
    (around : List (Stop P)) : Prop where
  split : stop.level.order = stop.earlier ++ stop.position :: stop.later
  arrived : ∃ status, Signals.Completes stop.front.program stop.entry stop.reached status
  earlier : ∀ position ∈ stop.earlier, ∀ proc, stop.level.procs[position]? = some proc →
    ∀ slot ∈ proc.slots, final.store[slot]? = stop.reached.store[slot]?
  later : ∀ position ∈ stop.later, ∀ proc, stop.level.procs[position]? = some proc →
    ∀ slot ∈ proc.slots, final.store[slot]? = stop.entry.store[slot]?
  outermost : around = [] → stop.entry = before
  entered : ∀ slot ∈ stop.level.slots,
    Store.KeptBut (fun terminal => ∃ outer ∈ around, outer.Feeds terminal) slot before.store
      stop.entry.store

/-- What is left in a level inside a subnet, seen from the level around it. -/
theorem Left.within {outer : Stop P} {fed : Signals P} {around : List (Stop P)}
    (left : stop.Left fed final around)
    (kept : ∀ slot ∈ stop.level.slots,
      Store.KeptBut outer.Feeds slot outer.entry.store fed.store) :
    stop.Left outer.entry final (outer :: around) where
  split := left.split
  arrived := left.arrived
  earlier := left.earlier
  later := left.later
  outermost := fun isNil => absurd isNil (List.cons_ne_nil _ _)
  entered := fun slot own =>
    ((kept slot own).mono fun _ fed => ⟨outer, List.mem_cons_self, fed⟩).trans
      ((left.entered slot own).mono fun _ ⟨other, listed, fed⟩ =>
        ⟨other, List.mem_cons_of_mem _ listed, fed⟩)

theorem At.left (located : stop.At proc) (nodup : stop.level.slots.Nodup)
    (ordered : stop.level.Ordered)
    (failed : Signals.Fails (stop.level.block stop.position) stop.reached final fault) :
    stop.Left stop.entry final [] := by
  have distinct := (ordered stop.level (.self _)).nodup
  rw [located.split, List.nodup_append, List.nodup_cons] at distinct
  obtain ⟨-, ⟨notLater, -⟩, apart⟩ := distinct
  refine ⟨located.split, located.arrived, ?_, ?_, fun _ => rfl, fun slot _ => .of_eq rfl⟩
  · intro position isEarlier other found slot own
    have different := apart position isEarlier stop.position List.mem_cons_self
    exact final_eq_reached nodup failed different found own
  · intro position isLater other found slot own
    have different : position ≠ stop.position := fun same => notLater (same ▸ isLater)
    have notEarlier : position ∉ stop.earlier := fun isEarlier =>
      apart position isEarlier position (List.mem_cons_of_mem _ isLater) rfl
    exact (final_eq_reached nodup failed different found own).trans
      (located.reached_eq_entry nodup notEarlier found own)

end Stop

namespace Halts

/-- At the outermost stop. -/
theorem left_of_cons {stop : Stop P} {deeper : List (Stop P)}
    (halts : Halts level entry final fault (stop :: deeper)) (nodup : level.slots.Nodup)
    (ordered : level.Ordered) : stop.level = level ∧ stop.Left entry final [] := by
  obtain ⟨_, proc, _, isCons, rfl, rfl, located, failed⟩ := halts.exists_cons
  cases isCons
  exact ⟨rfl, located.left nodup ordered failed⟩

theorem inside_of_cons {stop : Stop P} {deeper : List (Stop P)}
    (halts : Halts level entry final fault (stop :: deeper)) (goesOn : deeper ≠ []) :
    stop.level = level ∧ stop.entry = entry ∧
      ∃ (proc : Proc P) (below : Level P) (fed : Signals P) (status : StepStatus),
        stop.At proc ∧ proc.inner? = some below ∧
          Signals.Completes (proc.copies stop.level.procs) stop.reached fed status ∧
            Halts below fed final fault deeper := by
  cases halts with
  | input => exact absurd rfl goesOn
  | step => exact absurd rfl goesOn
  | inside located isSubnet copied deeper =>
      exact ⟨rfl, rfl, _, _, _, _, located, isSubnet, copied, deeper⟩

/-- At every stop, by induction over the stops around it. -/
theorem left {around below : List (Stop P)} {stop : Stop P}
    (halts : Halts level entry final fault (around ++ stop :: below))
    (nodup : level.slots.Nodup) (ordered : level.Ordered) :
    level.Within stop.level ∧ stop.Left entry final around := by
  induction around generalizing level entry with
  | nil =>
      obtain ⟨rfl, left⟩ := halts.left_of_cons nodup ordered
      exact ⟨.self _, left⟩
  | cons outer rest inductionHypothesis =>
      obtain ⟨rfl, rfl, proc, inner, fed, status, located, isSubnet, copied, deeper⟩ :=
        halts.inside_of_cons (List.append_ne_nil_of_right_ne_nil rest (List.cons_ne_nil _ _))
      have member := List.mem_of_getElem? located.found
      have innerWithin : outer.level.Within inner := .inner member isSubnet (.self inner)
      obtain ⟨within, left⟩ := inductionHypothesis deeper
        (innerWithin.slots_sublist.nodup nodup) (ordered.inner member isSubnet)
      refine ⟨innerWithin.trans within, left.within fun slot own => ?_⟩
      have ofProc : slot ∈ proc.slots := by
        rw [proc.slots_of_inner? isSubnet]
        exact within.slots_sublist.subset own
      exact located.keptBut_entry nodup ordered copied ofProc

end Halts

/-! ## Cycles of a built network -/

namespace Network

theorem fails_of_cycle {before after : Network P}
    (failed : before.cycle = (after, .error fault)) :
    ∃ final, Signals.Fails before.level.program before.signals final fault ∧
      after = { before with store := final.store, devices := final.devices } := by
  unfold cycle at failed
  split at failed
  · cases failed
  · rename_i final reported result
    cases failed
    exact ⟨final, result, rfl⟩

/-- A cycle that fails does not count. In each network around the proc that failed, the procs in
front of the place where the cycle stopped are as a run over just these leaves them, and the procs
behind it are as they were when the network was entered: as before the cycle, apart from native
variables that connections of the subnets around it had by then been copied into. -/
theorem failed_cycle_keeps {classes : ClassSet P} {template : Template} {timing : Timing}
    {devices : List Device} {network : Network P}
    (built : Network.build classes template timing devices = .ok network)
    (operations : List Operation) {before after : Network P} {fault : CycleError}
    (reached : network.performAll operations = before)
    (failed : before.cycle = (after, .error fault)) :
    after.cycleIndex = before.cycleIndex ∧ after.level = network.level ∧
      ∃ final stops, final.store = after.store ∧ final.devices = after.devices ∧
        Halts network.level before.signals final fault stops ∧
        (∃ stop proc, stops.getLast? = some stop ∧
          stop.level.procs[stop.position]? = some proc ∧ fault.proc? = some proc.label) ∧
        ∀ around stop below, stops = around ++ stop :: below →
          network.level.Within stop.level ∧ stop.Left before.signals final around := by
  subst reached
  have sameLevel := network.level_performAll operations
  obtain ⟨final, run, rfl⟩ := fails_of_cycle failed
  rw [sameLevel] at run
  obtain ⟨stops, halts⟩ := fails_iff_halts.mp run
  refine ⟨rfl, sameLevel, final, stops, rfl, rfl, halts, halts.names, ?_⟩
  rintro around stop below rfl
  exact halts.left (Build.nodup_slots_of_build built (.self _)) (Build.ordered_of_build built)

end Network

/-! ## A number that is too large -/

namespace Overflow

def number : ClassDescription Builtin :=
  ⟨"number", [⟨"value", "", some .double, .empty, none, false, none⟩,
    ⟨"out", "", some .double, .empty, none, false, none⟩], [], .plain Builtin.numberClass, none⟩

def integer : ClassDescription Builtin :=
  ⟨"integer", [⟨"value", "", some .double, .empty, none, false, none⟩,
    ⟨"out", "", some .int, .empty, none, false, none⟩], [], .plain Builtin.numberClass, none⟩

/-- Two procs side by side, the first of which emits integers. -/
def box : ClassDescription Builtin :=
  ⟨"box", [⟨"a", "", some .double, .empty, none, true, some ⟨"first", "value"⟩⟩,
      ⟨"b", "", some .double, .empty, none, true, some ⟨"second", "value"⟩⟩], [],
    .subnet ⟨[⟨"first", "integer", .empty, [], none, none, none⟩,
      ⟨"second", "number", .empty, [], none, none, none⟩], []⟩, none⟩

def classes : ClassSet Builtin := ⟨[integer, number, box]⟩

/-- A source outside feeds the second proc in a box. -/
def template : Template :=
  ⟨[⟨"source", "number", .empty, [], none, none, none⟩,
    ⟨"box", "box", .empty, [⟨"b", "source.out"⟩], none, none, none⟩], []⟩

def inside : Level Builtin :=
  ⟨[.native ⟨"first", none, integer, [], none⟩ 1, .native ⟨"second", none, number, [], none⟩ 2],
    [0, 1], []⟩

def network : Network Builtin :=
  let cell := fun type : ValueType => (⟨.number 0 1, ⟨[⟨"value", .double, .empty, [.double 0]⟩,
    ⟨"out", type, .empty, [Value.zero type]⟩]⟩⟩ : Cell Builtin)
  ⟨"root", ⟨[.native ⟨"source", none, number, [], none⟩ 0,
      .subnet ⟨"box", none, box, [⟨1, 0, 1⟩], none⟩ inside.procs inside.order inside.presets
        [[(0, 0)], [(1, 0)]]], [0, 1], []⟩,
    [cell .double, cell .int, cell .double], [], .standard, 0⟩

theorem built : Network.build classes template .standard [] = .ok network := rfl

/-- The number of the first proc does not fit an integer. -/
def operations : List Operation :=
  [.set "source" "value" 0 (.double 5), .set "box" "a" 0 (.double 3000000000)]

def reached : Network Builtin := network.performAll operations

def tooLarge : CycleError :=
  .step "first" "integer" (.unstorable (.outOfRange .int (.number 3000000000)))

theorem fails : reached.cycle.2 = .error tooLarge := rfl

/-- The cycle stops at the first proc in the box. -/
theorem failed_cycle_keeps_box :
    Network.build classes template .standard [] = .ok network ∧
      reached.cycle.2 = .error tooLarge ∧ reached.cycle.1.cycleIndex = 0 ∧
        ∃ final stops, final.store = reached.cycle.1.store ∧
          Halts network.level reached.signals final tooLarge stops ∧
            ∀ around stop below, stops = around ++ stop :: below →
              network.level.Within stop.level ∧ stop.Left reached.signals final around := by
  obtain ⟨counted, -, final, stops, sameStore, -, halts, -, left⟩ :=
    Network.failed_cycle_keeps built operations rfl (Prod.ext rfl fails)
  exact ⟨built, fails, counted, final, stops, sameStore, halts, left⟩

/-- The second proc in the box comes after the first one, which fails, and yet it is not as it was:
the connection of the box has been copied into it. -/
theorem second_fed_before_first_fails :
    Network.build classes template .standard [] = .ok network ∧
      reached.cycle.2 = .error tooLarge ∧ tooLarge.proc? = some "first" ∧
        network.level.Within inside ∧ inside.order = [0, 1] ∧
          inside.procs.map (fun proc => (proc.label, proc.slots)) =
            [("first", [1]), ("second", [2])] ∧
          reached.store.place? ⟨2, 0⟩ 0 = some (.double 0) ∧
            reached.cycle.1.store.place? ⟨2, 0⟩ 0 = some (.double 5) := by
  have within : network.level.Within inside :=
    .inner (List.mem_cons_of_mem _ List.mem_cons_self) rfl (.self inside)
  exact ⟨built, fails, rfl, within, rfl, rfl, rfl, rfl⟩

end Overflow

end SignalNet
