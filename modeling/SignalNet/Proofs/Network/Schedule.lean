import Mathlib.Data.List.Perm.Basic
import SignalNet.Proofs.Network.Construction
import SignalNet.Proofs.Network.Locality

/-!
Contract: when the procs of a network are stepped.

A cycle is a straight list of instructions. `Level.Visit` tells, for a proc at any
depth, which of them come before the proc is stepped. The instructions from there on
leave the sources of the proc alone, and every native proc is stepped once.

Owns: visits, the split of a cycle at a visit (`Visit.settled`), and the steps of a
cycle (`stepped_program_perm`).
-/

set_option autoImplicit false

namespace SignalNet

variable {P : Type}

namespace Level

/-- In a network and everything inside, the procs are in an order of execution. -/
def Ordered (level : Level P) : Prop :=
  ∀ inside, level.Within inside → ExecutionOrder inside.sources inside.order

theorem Ordered.inner {level : Level P} (ordered : level.Ordered) {proc : Proc P} {below : Level P}
    (member : proc ∈ level.procs) (isSubnet : proc.inner? = some below) : below.Ordered :=
  fun inside within => ordered inside (.inner member isSubnet within)

theorem length_sources (level : Level P) : level.sources.length = level.procs.length :=
  List.length_map _

/-! ## Visits -/

/-- The instructions in front of the step of the proc at a position of an inner network:
the blocks of earlier procs, and the copies into the procs around it and into itself. -/
inductive Visit : Level P → List Instruction → Level P → Nat → Prop where
  | here {level : Level P} {earlier later : List Nat} {position : Nat}
      (split : level.order = earlier ++ position :: later) :
      Visit level (earlier.flatMap level.block ++ copiesAt level.procs position) level position
  | inside {level below inner : Level P} {earlier later : List Nat} {outer position : Nat}
      {proc : Proc P} {before : List Instruction}
      (split : level.order = earlier ++ outer :: later)
      (found : level.procs[outer]? = some proc) (isSubnet : proc.inner? = some below)
      (deeper : Visit below before inner position) :
      Visit level (earlier.flatMap level.block ++ (copiesAt level.procs outer ++ before)) inner
        position

theorem exists_visit {level inner : Level P} (ordered : level.Ordered)
    (within : level.Within inner) {position : Nat} (below : position < inner.procs.length) :
    ∃ before, level.Visit before inner position := by
  induction within with
  | self level =>
      have listed : position ∈ level.order :=
        ((ordered level (.self level)).mem_iff position).mpr (level.length_sources ▸ below)
      obtain ⟨earlier, later, split⟩ := List.append_of_mem listed
      exact ⟨_, .here split⟩
  | @inner level proc next inside member isSubnet _ inductionHypothesis =>
      obtain ⟨before, visit⟩ := inductionHypothesis (ordered.inner member isSubnet) below
      obtain ⟨outer, found⟩ := List.mem_iff_getElem?.mp member
      have outerBelow : outer < level.procs.length := (List.getElem?_eq_some_iff.mp found).1
      have listed : outer ∈ level.order :=
        ((ordered level (.self level)).mem_iff outer).mpr (level.length_sources ▸ outerBelow)
      obtain ⟨earlier, later, split⟩ := List.append_of_mem listed
      exact ⟨_, .inside split found isSubnet visit⟩

theorem program_of_split {level : Level P} {earlier later : List Nat} {position : Nat}
    {proc : Proc P} (split : level.order = earlier ++ position :: later)
    (found : level.procs[position]? = some proc) :
    level.program = earlier.flatMap level.block ++
      (proc.copies level.procs ++ (proc.program ++ later.flatMap level.block)) := by
  rw [program_eq_flatMap, split, List.flatMap_append, List.flatMap_cons, block_of_getElem? found,
    List.append_assoc]

theorem copiesAt_of_getElem? {procs : List (Proc P)} {position : Nat} {proc : Proc P}
    (found : procs[position]? = some proc) : copiesAt procs position = proc.copies procs := by
  rw [copiesAt, found, Option.map_some, Option.getD_some]

theorem Visit.within {level inner : Level P} {before : List Instruction} {position : Nat}
    (visit : level.Visit before inner position) : level.Within inner := by
  induction visit with
  | @here level => exact .self level
  | inside _ found isSubnet _ inductionHypothesis =>
      exact .inner (List.mem_of_getElem? found) isSubnet inductionHypothesis

theorem not_changed_block {level : Level P} (nodup : level.slots.Nodup) {position other : Nat}
    {proc : Proc P} (found : level.procs[position]? = some proc) (different : other ≠ position)
    {instruction : Instruction} (inBlock : instruction ∈ level.block other) {slot : Nat}
    (changed : slot ∈ instruction.changed) : slot ∉ proc.slots := by
  obtain ⟨otherProc, otherFound, -⟩ := mem_block inBlock
  exact slot_disjoint nodup different otherFound found (changed_block otherFound inBlock changed)

/-- A cycle cut at a visit: `start` comes before the copies into the proc, and `rest`
after its step. From the copies on, nothing changes the sources of the proc. -/
structure Cut (level : Level P) (before : List Instruction) (inner : Level P) (position : Nat)
    (proc : Proc P) (start rest : List Instruction) : Prop where
  before_eq : before = start ++ proc.copies inner.procs
  program_eq : level.program =
    start ++ (proc.copies inner.procs ++ (proc.program ++ rest))
  settled : ∀ source ∈ sourcesAt inner.sources position, ∀ other,
    inner.procs[source]? = some other →
      ∀ instruction ∈ proc.copies inner.procs ++ (proc.program ++ rest),
        ∀ slot ∈ instruction.changed, slot ∉ other.slots

/-- Every visit cuts the cycle. -/
theorem Visit.exists_cut {level inner : Level P} {before : List Instruction} {position : Nat}
    {proc : Proc P} (visit : level.Visit before inner position) (nodup : level.slots.Nodup)
    (ordered : level.Ordered) (found : inner.procs[position]? = some proc) :
    ∃ start rest, level.Cut before inner position proc start rest := by
  induction visit with
  | @here level earlier later position split =>
      have order := ordered level (.self level)
      have distinct := order.nodup
      rw [split, List.nodup_append] at distinct
      refine ⟨earlier.flatMap level.block, later.flatMap level.block, ?_, ?_, ?_⟩
      · rw [copiesAt_of_getElem? found]
      · exact program_of_split split found
      · intro source isSource other otherFound instruction member slot changed
        rw [← List.append_assoc, ← block_of_getElem? found, ← List.flatMap_cons] at member
        obtain ⟨running, notEarlier, inBlock⟩ := List.mem_flatMap.mp member
        have isEarlier := order.sourcesFirst earlier position later split source isSource
        have different : running ≠ source := fun same =>
          distinct.2.2 source isEarlier running notEarlier same.symm
        exact not_changed_block nodup otherFound different inBlock changed
  | @inside level below inner earlier later outer position around before split outerFound isSubnet
      deeper inductionHypothesis =>
      have member := List.mem_of_getElem? outerFound
      have belowWithin : level.Within below := .inner member isSubnet (.self below)
      have distinct := (ordered level (.self level)).nodup
      rw [split, List.nodup_append, List.nodup_cons] at distinct
      obtain ⟨start, rest, cut⟩ := inductionHypothesis (belowWithin.slots_sublist.nodup nodup)
        (ordered.inner member isSubnet) found
      refine ⟨earlier.flatMap level.block ++ (around.copies level.procs ++ start),
        rest ++ later.flatMap level.block, ?_, ?_, ?_⟩
      · rw [copiesAt_of_getElem? outerFound, cut.before_eq]
        simp only [List.append_assoc]
      · rw [program_of_split split outerFound, around.program_of_inner? isSubnet, cut.program_eq]
        simp only [List.append_assoc]
      · intro source isSource other otherFound instruction isInstruction slot changed inOther
        rw [← List.append_assoc proc.program, ← List.append_assoc] at isInstruction
        rcases List.mem_append.mp isInstruction with inside | behind
        · exact cut.settled source isSource other otherFound instruction inside slot changed inOther
        · obtain ⟨running, isLater, inBlock⟩ := List.mem_flatMap.mp behind
          have different : running ≠ outer := fun same => distinct.2.1.1 (same ▸ isLater)
          have inInner : slot ∈ inner.slots :=
            mem_slotsOf.mpr ⟨other, List.mem_of_getElem? otherFound, inOther⟩
          apply not_changed_block nodup outerFound different inBlock changed
          rw [around.slots_of_inner? isSubnet]
          exact deeper.within.slots_sublist.subset inInner

end Level

/-! ## Steps -/

/-- The cell that an instruction steps. -/
def Instruction.stepped? : Instruction → Option Nat
  | .copy .. => none
  | .step _ _ slot _ => some slot

/-- The cells that a program steps, in turn. -/
def steppedBy (program : List Instruction) : List Nat := program.filterMap Instruction.stepped?

theorem steppedBy_append (first second : List Instruction) :
    steppedBy (first ++ second) = steppedBy first ++ steppedBy second :=
  List.filterMap_append

theorem Proc.steppedBy_copies (proc : Proc P) (procs : List (Proc P)) :
    steppedBy (proc.copies procs) = [] := by
  apply List.filterMap_eq_nil_iff.mpr
  intro instruction member
  obtain ⟨connection, -, rfl⟩ := List.mem_map.mp member
  rfl

namespace Level

theorem steppedBy_program_perm {level : Level P}
    (order : level.order.Perm (List.range level.procs.length))
    (each : ∀ proc ∈ level.procs, (steppedBy proc.program).Perm proc.slots) :
    (steppedBy level.program).Perm level.slots := by
  have block : ∀ position ∈ List.range level.procs.length,
      (steppedBy (level.block position)).Perm
        (((level.procs[position]?).map Proc.slots).getD []) := by
    intro position member
    have below := List.mem_range.mp member
    have found := List.getElem?_eq_getElem below
    rw [block_of_getElem? found, found, steppedBy_append, Proc.steppedBy_copies, List.nil_append,
      Option.map_some, Option.getD_some]
    exact each _ (List.getElem_mem below)
  rw [program_eq_flatMap, steppedBy, List.filterMap_flatMap]
  apply (order.flatMap_right _).trans
  apply (List.Perm.flatMap_left _ block).trans
  rw [slots, slotsOf_eq_flatMap, List.flatMap_def, List.flatMap_def]
  have listed : (List.range level.procs.length).map
      (fun position => ((level.procs[position]?).map Proc.slots).getD []) =
        level.procs.map Proc.slots := by
    apply List.ext_getElem (by simp)
    intro position _ below
    simp at below
    simp [below]
  rw [listed]

end Level

theorem Proc.steppedBy_program_perm (proc : Proc P)
    (ordered : ∀ below, proc.inner? = some below → below.Ordered) :
    (steppedBy proc.program).Perm proc.slots := by
  induction proc with
  | native head slot => exact List.Perm.refl _
  | subnet head procs order presets forwards inductionHypothesis =>
      have innerOrdered := ordered ⟨procs, order, presets⟩ rfl
      have perm := (innerOrdered _ (.self _)).perm
      rw [Level.length_sources] at perm
      exact Level.steppedBy_program_perm perm fun proc member =>
        inductionHypothesis proc member fun _ isSubnet => innerOrdered.inner member isSubnet

namespace Level

/-- A cycle steps every cell of an ordered network once. -/
theorem Ordered.steppedBy_perm {level : Level P} (ordered : level.Ordered) :
    (steppedBy level.program).Perm level.slots := by
  have perm := (ordered level (.self level)).perm
  rw [length_sources] at perm
  exact steppedBy_program_perm perm fun proc member =>
    proc.steppedBy_program_perm fun _ isSubnet => ordered.inner member isSubnet

theorem Cut.not_stepped {level inner : Level P} {before start rest : List Instruction}
    {position : Nat} {proc : Proc P} (cut : level.Cut before inner position proc start rest)
    (visit : level.Visit before inner position) (found : inner.procs[position]? = some proc)
    (nodup : level.slots.Nodup) (ordered : level.Ordered) {instruction : Instruction}
    (member : instruction ∈ before) {slot : Nat} (own : slot ∈ proc.slots) :
    instruction.stepped? ≠ some slot := by
  intro stepped
  have distinct := ordered.steppedBy_perm.nodup_iff.mpr nodup
  have innerOrdered : inner.Ordered := fun inside within =>
    ordered inside (visit.within.trans within)
  have later : slot ∈ steppedBy proc.program :=
    (proc.steppedBy_program_perm fun _ isSubnet =>
      innerOrdered.inner (List.mem_of_getElem? found) isSubnet).mem_iff.mpr own
  have earlier : slot ∈ steppedBy before := List.mem_filterMap.mpr ⟨instruction, member, stepped⟩
  rw [cut.before_eq] at earlier
  rw [cut.program_eq, ← List.append_assoc start, steppedBy_append,
    steppedBy_append proc.program, List.nodup_append] at distinct
  exact distinct.2.2 slot earlier slot (List.mem_append_left _ later) rfl

end Level

/-- The procs of a built network are in an order of execution, at every depth. -/
theorem Build.ordered_of_build [Processor P] {classes : ClassSet P} {template : Template}
    {timing : Timing} {devices : List Device} {network : Network P}
    (built : Network.build classes template timing devices = .ok network) :
    network.level.Ordered := by
  let isOrdered := fun level : Level P => ExecutionOrder level.sources level.order
  have holds : ∀ depth template replica exposed store created middle level after,
      Assembled ⟨classes, timing, devices⟩ (buildNested ⟨classes, timing, devices⟩ depth) template
        replica exposed store created middle level after → isOrdered level := by
    intro depth template replica exposed store created middle level after assembled
    exact executionOrder_of_releaseOrder (mapError_eq_ok.mp assembled.ordered)
  exact fun inside within =>
    forall_within_of_buildNested holds (buildNested_of_build built).1 within

end SignalNet
