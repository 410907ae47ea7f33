import Mathlib.Data.List.Perm.Basic
import SignalNet.Proofs.Native.Steadiness
import SignalNet.Proofs.Network.Construction
import SignalNet.Proofs.Network.Locality

/-!
Contract: a cycle does not depend on the chosen order of execution.

Programs that stay out of each other's way can be exchanged. In two orders of
execution of one network every pair of procs that is ordered differently stays out of
each other's way, so one order can be turned into the other by such exchanges.

All steps of a cycle share one context, so procs that change it are never out of each other's
way. Processors that only read it (`ContextReader`) are.

Owns: exchangeable programs (`Independent`), the exchange (`Signals.completes_swap`),
and the independence of a run from the order (`completes_of_orders`).
-/

set_option autoImplicit false

namespace SignalNet

variable {P : Type}

/-! ## Exchangeable programs -/

/-- Neither program changes what the other one reads or changes. -/
structure Independent (first second : List Instruction) : Prop where
  keepsSecond : ∀ early ∈ first, ∀ late ∈ second, ∀ slot ∈ early.changed, slot ∉ late.touched
  keepsFirst : ∀ early ∈ first, ∀ late ∈ second, ∀ slot ∈ late.changed, slot ∉ early.touched
  devicesApart : ∀ early ∈ first, ∀ late ∈ second, ∀ device ∈ early.devices,
    device ∉ late.devices

namespace Independent

variable {first second : List Instruction}

theorem symm (independent : Independent first second) : Independent second first where
  keepsSecond early earlyMember late lateMember :=
    independent.keepsFirst late lateMember early earlyMember
  keepsFirst early earlyMember late lateMember :=
    independent.keepsSecond late lateMember early earlyMember
  devicesApart early earlyMember late lateMember device inEarly inLate :=
    independent.devicesApart late lateMember early earlyMember device inLate inEarly

theorem flatMap {positions : List Nat} {block : Nat → List Instruction}
    (each : ∀ position ∈ positions, Independent first (block position)) :
    Independent first (positions.flatMap block) where
  keepsSecond early earlyMember late lateMember := by
    obtain ⟨position, member, inBlock⟩ := List.mem_flatMap.mp lateMember
    exact (each position member).keepsSecond early earlyMember late inBlock
  keepsFirst early earlyMember late lateMember := by
    obtain ⟨position, member, inBlock⟩ := List.mem_flatMap.mp lateMember
    exact (each position member).keepsFirst early earlyMember late inBlock
  devicesApart early earlyMember late lateMember := by
    obtain ⟨position, member, inBlock⟩ := List.mem_flatMap.mp lateMember
    exact (each position member).devicesApart early earlyMember late inBlock

end Independent

namespace Signals

/-- Two states agree on everything that a program names, and on the context. -/
def AgreeFor (program : List Instruction) (left right : Signals P) : Prop :=
  AgreeOn (program.flatMap (·.touched)) (program.flatMap (·.devices)) left right

theorem AgreeFor.symm {program : List Instruction} {left right : Signals P}
    (agreement : AgreeFor program left right) : AgreeFor program right left where
  cells slot member := (agreement.cells slot member).symm
  devices device member := (agreement.devices device member).symm
  context := agreement.context.symm

variable [Processor P]

theorem perform_context [ContextReader P] (signals : Signals P) (instruction : Instruction) :
    (signals.perform instruction).1.context = signals.context := by
  cases instruction with
  | copy proc var source destination => rfl
  | step proc className slot device =>
      simp only [perform, step]
      split
      · rfl
      · exact ContextReader.context_step _ _ _ _

/-- Steps that only read the context leave it to the steps behind a run as it was. -/
theorem run_context [ContextReader P] (status : StepStatus) (program : List Instruction)
    (signals : Signals P) : (run status program signals).1.context = signals.context := by
  induction program generalizing status signals with
  | nil => rfl
  | cons instruction rest inductionHypothesis =>
      have first := signals.perform_context instruction
      rw [run]
      split <;> rename_i result <;> rw [result] at first
      · exact first
      · exact (inductionHypothesis _ _).trans first

section

variable {program : List Instruction} {before after : Signals P} {status : StepStatus}

theorem Completes.unchanged (completes : Completes program before after status)
    {slot : Nat} (outside : ∀ instruction ∈ program, slot ∉ instruction.changed) :
    after.store[slot]? = before.store[slot]? := by
  have kept := run_unchanged .proceed program before outside
  rwa [completes] at kept

theorem Completes.devices_unchanged (completes : Completes program before after status)
    {device : Nat} (outside : ∀ instruction ∈ program, device ∉ instruction.devices) :
    after.devices[device]? = before.devices[device]? := by
  have kept := run_devices_unchanged .proceed program before outside
  rwa [completes] at kept

theorem Completes.transport (completes : Completes program before after status)
    {other : Signals P} (agreement : AgreeFor program before other) :
    ∃ final, Completes program other final status ∧ AgreeFor program after final := by
  obtain ⟨sameOutcome, agreeAfter⟩ := run_agree .proceed agreement program
    (fun instruction member slot touched => List.mem_flatMap.mpr ⟨instruction, member, touched⟩)
    (fun instruction member device named => List.mem_flatMap.mpr ⟨instruction, member, named⟩)
  rw [completes] at sameOutcome agreeAfter
  exact ⟨(run .proceed program other).1, Prod.ext rfl sameOutcome.symm, agreeAfter⟩

theorem Completes.context_eq [ContextReader P]
    (completes : Completes program before after status) : after.context = before.context := by
  have kept := run_context .proceed program before
  rwa [completes] at kept

end

variable [ContextReader P] {first second : List Instruction} {before middle after : Signals P}
  {status : StepStatus}

theorem Completes.agreeFor (completes : Completes first before after status)
    (independent : Independent first second) : AgreeFor second before after := by
  refine ⟨?_, ?_, completes.context_eq.symm⟩
  · intro slot member
    obtain ⟨late, inSecond, touched⟩ := List.mem_flatMap.mp member
    exact (completes.unchanged fun early inFirst changed =>
      independent.keepsSecond early inFirst late inSecond slot changed touched).symm
  · intro device member
    obtain ⟨late, inSecond, named⟩ := List.mem_flatMap.mp member
    exact (completes.devices_unchanged fun early inFirst used =>
      independent.devicesApart early inFirst late inSecond device used named).symm

/-- Two independent programs may be exchanged. -/
theorem completes_swap (independent : Independent first second)
    (completes : Completes (first ++ second) before after status) :
    Completes (second ++ first) before after status := by
  obtain ⟨middle, early, late, atFirst, atSecond, rfl⟩ := completes_append.mp completes
  obtain ⟨other, secondFromStart, agreeSecond⟩ :=
    atSecond.transport (atFirst.agreeFor independent).symm
  obtain ⟨final, firstFromOther, agreeFirst⟩ :=
    atFirst.transport (secondFromStart.agreeFor independent.symm)
  -- every cell is changed by at most one of the programs, which ends as it did before
  have sameStore : final.store = after.store := by
    apply List.ext_getElem?
    intro slot
    by_cases byFirst : ∃ instruction ∈ first, slot ∈ instruction.changed
    · obtain ⟨instruction, inFirst, changed⟩ := byFirst
      rw [← agreeFirst.cells slot (List.mem_flatMap.mpr
        ⟨instruction, inFirst, Instruction.touched_of_changed changed⟩)]
      exact (atSecond.unchanged fun other inSecond changedToo =>
        independent.keepsFirst instruction inFirst other inSecond slot changedToo
          (Instruction.touched_of_changed changed)).symm
    · have outsideFirst : ∀ instruction ∈ first, slot ∉ instruction.changed :=
        fun instruction inFirst changed => byFirst ⟨instruction, inFirst, changed⟩
      rw [firstFromOther.unchanged outsideFirst]
      by_cases bySecond : ∃ instruction ∈ second, slot ∈ instruction.changed
      · obtain ⟨instruction, inSecond, changed⟩ := bySecond
        exact (agreeSecond.cells slot (List.mem_flatMap.mpr
          ⟨instruction, inSecond, Instruction.touched_of_changed changed⟩)).symm
      · have outsideSecond : ∀ instruction ∈ second, slot ∉ instruction.changed :=
          fun instruction inSecond changed => bySecond ⟨instruction, inSecond, changed⟩
        rw [secondFromStart.unchanged outsideSecond, atSecond.unchanged outsideSecond,
          atFirst.unchanged outsideFirst]
  have sameDevices : final.devices = after.devices := by
    apply List.ext_getElem?
    intro device
    by_cases byFirst : ∃ instruction ∈ first, device ∈ instruction.devices
    · obtain ⟨instruction, inFirst, used⟩ := byFirst
      rw [← agreeFirst.devices device (List.mem_flatMap.mpr ⟨instruction, inFirst, used⟩)]
      exact (atSecond.devices_unchanged fun other inSecond usedToo =>
        independent.devicesApart instruction inFirst other inSecond device used usedToo).symm
    · have outsideFirst : ∀ instruction ∈ first, device ∉ instruction.devices :=
        fun instruction inFirst used => byFirst ⟨instruction, inFirst, used⟩
      rw [firstFromOther.devices_unchanged outsideFirst]
      by_cases bySecond : ∃ instruction ∈ second, device ∈ instruction.devices
      · obtain ⟨instruction, inSecond, used⟩ := bySecond
        exact (agreeSecond.devices device
          (List.mem_flatMap.mpr ⟨instruction, inSecond, used⟩)).symm
      · have outsideSecond : ∀ instruction ∈ second, device ∉ instruction.devices :=
          fun instruction inSecond used => bySecond ⟨instruction, inSecond, used⟩
        rw [secondFromStart.devices_unchanged outsideSecond,
          atSecond.devices_unchanged outsideSecond, atFirst.devices_unchanged outsideFirst]
  have sameContext : final.context = after.context := by
    rw [firstFromOther.context_eq, secondFromStart.context_eq, atSecond.context_eq,
      atFirst.context_eq]
  obtain ⟨store, devices, context⟩ := final
  obtain rfl : store = after.store := sameStore
  obtain rfl : devices = after.devices := sameDevices
  obtain rfl : context = after.context := sameContext
  exact completes_append.mpr
    ⟨other, late, early, secondFromStart, firstFromOther, StepStatus.or_comm early late⟩

/-! ## Two orders -/

/-- If all pairs of blocks that may stand in either order are independent, then all
orders of execution do the same. -/
theorem completes_of_orders {sources : List (List Nat)} {block : Nat → List Instruction}
    (independent : ∀ position other, position ≠ other →
      other ∉ sourcesAt sources position → position ∉ sourcesAt sources other →
        Independent (block position) (block other))
    {first second : List Nat} (rearranged : first.Perm second) (nodup : first.Nodup)
    (firstOrdered : first.Pairwise fun earlier later => later ∉ sourcesAt sources earlier)
    (secondOrdered : second.Pairwise fun earlier later => later ∉ sourcesAt sources earlier)
    (completes : Completes (first.flatMap block) before after status) :
    Completes (second.flatMap block) before after status := by
  induction first generalizing second before status with
  | nil =>
      rw [List.nil_perm.mp rearranged]
      exact completes
  | cons position rest inductionHypothesis =>
      have present : position ∈ second := rearranged.subset List.mem_cons_self
      obtain ⟨earlier, later, rfl⟩ := List.append_of_mem present
      have restRearranged : rest.Perm (earlier ++ later) :=
        (rearranged.trans List.perm_middle).cons_inv
      rw [List.nodup_cons] at nodup
      rw [List.pairwise_cons] at firstOrdered
      rw [List.pairwise_append, List.pairwise_cons] at secondOrdered
      obtain ⟨earlierOrdered, ⟨-, laterOrdered⟩, across⟩ := secondOrdered
      rw [List.flatMap_cons] at completes
      obtain ⟨middle, head, tail, atPosition, atRest, rfl⟩ := completes_append.mp completes
      have inNewOrder := inductionHypothesis restRearranged nodup.2 firstOrdered.2
        (List.pairwise_append.mpr ⟨earlierOrdered, laterOrdered, fun before inEarlier behind
          inLater => across before inEarlier behind (List.mem_cons_of_mem _ inLater)⟩) atRest
      -- what stands before the proc in the other order does not interfere with it
      have exchangeable : Independent (block position) (earlier.flatMap block) := by
        apply Independent.flatMap
        intro other member
        have inRest : other ∈ rest :=
          restRearranged.mem_iff.mpr (List.mem_append_left _ member)
        refine independent position other ?_ (firstOrdered.1 other inRest)
          (across other member position List.mem_cons_self)
        rintro rfl
        exact nodup.1 inRest
      rw [List.flatMap_append] at inNewOrder
      rw [List.flatMap_append, List.flatMap_cons, ← List.append_assoc]
      obtain ⟨next, fromEarlier, fromLater, atEarlier, atLater, rfl⟩ :=
        completes_append.mp inNewOrder
      refine completes_append.mpr ⟨next, head.or fromEarlier, fromLater, ?_, atLater,
        (StepStatus.or_assoc _ _ _).symm⟩
      exact completes_swap exchangeable
        (completes_append.mpr ⟨middle, head, fromEarlier, atPosition, atEarlier, rfl⟩)

end Signals

/-! ## Blocks of a network -/

namespace Level

/-- No device is bound in two different procs, counting everything nested in them. -/
def DevicesApart (level : Level P) : Prop :=
  level.procs.Pairwise fun proc other => ∀ device ∈ proc.devices, device ∉ other.devices

instance (level : Level P) : Decidable level.DevicesApart :=
  inferInstanceAs (Decidable (List.Pairwise _ _))

theorem DevicesApart.disjoint {level : Level P} (apart : level.DevicesApart)
    {position other : Nat} {proc otherProc : Proc P} (different : position ≠ other)
    (procAt : level.procs[position]? = some proc)
    (otherAt : level.procs[other]? = some otherProc) {device : Nat}
    (inProc : device ∈ proc.devices) : device ∉ otherProc.devices := by
  obtain ⟨positionBelow, rfl⟩ := List.getElem?_eq_some_iff.mp procAt
  obtain ⟨otherBelow, rfl⟩ := List.getElem?_eq_some_iff.mp otherAt
  have ordered := List.pairwise_iff_getElem.mp apart
  rcases Nat.lt_or_gt_of_ne different with before | behind
  · exact ordered position other positionBelow otherBelow before device inProc
  · exact fun inOther =>
      ordered other position otherBelow positionBelow behind device inOther inProc

theorem not_touched_of_changed {level : Level P} (nodup : level.slots.Nodup)
    {position other : Nat} (different : position ≠ other)
    (unread : position ∉ sourcesAt level.sources other) {early late : Instruction}
    (inBlock : early ∈ level.block position) (inOther : late ∈ level.block other)
    {slot : Nat} (changed : slot ∈ early.changed) : slot ∉ late.touched := by
  intro touched
  obtain ⟨proc, procAt, -⟩ := mem_block inBlock
  obtain ⟨otherProc, otherAt, -⟩ := mem_block inOther
  have own := changed_block procAt inBlock changed
  rcases touched_block otherAt inOther touched with
    inOtherProc | ⟨source, isSource, sourceProc, sourceAt, inSource⟩
  · exact slot_disjoint nodup different procAt otherAt own inOtherProc
  · have notSource : position ≠ source := fun same => unread (same ▸ isSource)
    exact slot_disjoint nodup notSource procAt sourceAt own inSource

/-- Two procs that do not read each other are independent of each other. -/
theorem independent_blocks {level : Level P} (nodup : level.slots.Nodup)
    (apart : level.DevicesApart) {position other : Nat} (different : position ≠ other)
    (unread : other ∉ sourcesAt level.sources position)
    (notReading : position ∉ sourcesAt level.sources other) :
    Independent (level.block position) (level.block other) where
  keepsSecond _ inBlock _ inOther _ changed :=
    not_touched_of_changed nodup different notReading inBlock inOther changed
  keepsFirst _ inBlock _ inOther _ changed :=
    not_touched_of_changed nodup different.symm unread inOther inBlock changed
  devicesApart early inBlock late inOther device inEarly inLate := by
    obtain ⟨proc, procAt, -⟩ := mem_block inBlock
    obtain ⟨otherProc, otherAt, -⟩ := mem_block inOther
    have inProc := devices_block procAt inBlock inEarly
    exact apart.disjoint different procAt otherAt inProc (devices_block otherAt inOther inLate)

end Level

/-! ## The order of a built network -/

section

variable [Processor P] [ContextReader P]

theorem Level.completes_iff_of_orders {level : Level P} (nodup : level.slots.Nodup)
    (apart : level.DevicesApart) {first second : List Nat}
    (firstOrder : ExecutionOrder level.sources first)
    (secondOrder : ExecutionOrder level.sources second)
    {before after : Signals P} {status : StepStatus} :
    Signals.Completes (Level.program { level with order := first }) before after status ↔
      Signals.Completes (Level.program { level with order := second }) before after
        status := by
  have rearranged : first.Perm second := firstOrder.perm.trans secondOrder.perm.symm
  have independent : ∀ position other, position ≠ other →
      other ∉ sourcesAt level.sources position → position ∉ sourcesAt level.sources other →
        Independent (level.block position) (level.block other) :=
    fun _ _ => level.independent_blocks nodup apart
  rw [Level.program_eq_flatMap, Level.program_eq_flatMap]
  exact ⟨Signals.completes_of_orders independent rearranged firstOrder.nodup
      firstOrder.pairwise secondOrder.pairwise,
    Signals.completes_of_orders independent rearranged.symm secondOrder.nodup
      secondOrder.pairwise firstOrder.pairwise⟩

end

end SignalNet
