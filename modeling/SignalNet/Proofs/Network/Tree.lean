import Mathlib.Data.List.Nodup
import SignalNet.Network.Cycle

/-!
Contract: the shape of a built network, seen from outside the traversals.

The tree of procs is traversed by several recursive functions. This module gives
one principle of induction for all of them, and says what they compute in terms of
positions: which cells and which devices belong to a proc, which networks are inside
a network, and which instructions a proc contributes to a cycle.

Owns: `Proc.slots`, `Proc.devices`, `Level.Within`, `Level.block`, and the equations
that let later proofs leave the traversals folded.
-/

set_option autoImplicit false

namespace SignalNet

variable {P : Type}

/-- Induction over a tree of procs: a subnet may use what holds of all procs in it. -/
@[induction_eliminator]
theorem Proc.induction {motive : Proc P → Prop}
    (native : ∀ head slot, motive (.native head slot))
    (subnet : ∀ head procs order presets forwards, (∀ proc ∈ procs, motive proc) →
      motive (.subnet head procs order presets forwards))
    (proc : Proc P) : motive proc := by
  refine Proc.rec (motive_2 := fun procs => ∀ proc ∈ procs, motive proc)
    native subnet ?_ ?_ proc
  · intro proc member
    exact absurd member List.not_mem_nil
  · intro first rest holdsFirst holdsRest proc member
    rcases List.mem_cons.mp member with rfl | inRest
    · exact holdsFirst
    · exact holdsRest proc inRest

/-! ## Cells and devices -/

mutual

/-- The slots of all native procs in a proc. -/
def Proc.slots : Proc P → List Nat
  | .native _ slot => [slot]
  | .subnet _ procs _ _ _ => slotsOf procs

def slotsOf : List (Proc P) → List Nat
  | [] => []
  | proc :: rest => proc.slots ++ slotsOf rest

end

mutual

/-- The positions of the devices that the native procs in a proc are bound to. -/
def Proc.devices : Proc P → List Nat
  | .native head _ => head.device.toList
  | .subnet _ procs _ _ _ => devicesOf procs

def devicesOf : List (Proc P) → List Nat
  | [] => []
  | proc :: rest => proc.devices ++ devicesOf rest

end

theorem slotsOf_eq_flatMap (procs : List (Proc P)) : slotsOf procs = procs.flatMap Proc.slots := by
  induction procs with
  | nil => rfl
  | cons proc rest inductionHypothesis => rw [slotsOf, List.flatMap_cons, inductionHypothesis]

theorem devicesOf_eq_flatMap (procs : List (Proc P)) :
    devicesOf procs = procs.flatMap Proc.devices := by
  induction procs with
  | nil => rfl
  | cons proc rest inductionHypothesis => rw [devicesOf, List.flatMap_cons, inductionHypothesis]

theorem mem_slotsOf {procs : List (Proc P)} {slot : Nat} :
    slot ∈ slotsOf procs ↔ ∃ proc ∈ procs, slot ∈ proc.slots := by
  rw [slotsOf_eq_flatMap, List.mem_flatMap]

theorem mem_devicesOf {procs : List (Proc P)} {device : Nat} :
    device ∈ devicesOf procs ↔ ∃ proc ∈ procs, device ∈ proc.devices := by
  rw [devicesOf_eq_flatMap, List.mem_flatMap]

@[simp] theorem Proc.slots_withInputs (proc : Proc P) (inputs : List Connection) :
    (proc.withInputs inputs).slots = proc.slots := by
  cases proc <;> simp only [Proc.withInputs, Proc.slots]

theorem slot_disjoint {procs : List (Proc P)} (nodup : (slotsOf procs).Nodup)
    {first second : Nat} {left right : Proc P} (different : first ≠ second)
    (leftAt : procs[first]? = some left) (rightAt : procs[second]? = some right)
    {slot : Nat} (inLeft : slot ∈ left.slots) : slot ∉ right.slots := by
  intro inRight
  rw [slotsOf_eq_flatMap, List.nodup_flatMap] at nodup
  obtain ⟨firstBelow, rfl⟩ := List.getElem?_eq_some_iff.mp leftAt
  obtain ⟨secondBelow, rfl⟩ := List.getElem?_eq_some_iff.mp rightAt
  have disjoint := List.pairwise_iff_getElem.mp nodup.2
  rcases Nat.lt_or_gt_of_ne different with before | behind
  · exact disjoint first second firstBelow secondBelow before inLeft inRight
  · exact disjoint second first secondBelow firstBelow behind inRight inLeft

/-! ## Terminals -/

theorem terminalsAt_eq (procs : List (Proc P)) (position var : Nat) :
    terminalsAt procs position var =
      ((procs[position]?).map fun proc => proc.terminals var).getD [] := by
  induction procs generalizing position with
  | nil => simp [terminalsAt]
  | cons proc rest inductionHypothesis =>
      cases position with
      | zero => simp [terminalsAt]
      | succ position => simp [terminalsAt, inductionHypothesis]

theorem terminalsAt_of_getElem? {procs : List (Proc P)} {position : Nat} {proc : Proc P}
    (found : procs[position]? = some proc) (var : Nat) :
    terminalsAt procs position var = proc.terminals var := by
  rw [terminalsAt_eq, found, Option.map_some, Option.getD_some]

theorem mem_terminalsAt {procs : List (Proc P)} {position var : Nat} {terminal : Terminal} :
    terminal ∈ terminalsAt procs position var ↔
      ∃ proc, procs[position]? = some proc ∧ terminal ∈ proc.terminals var := by
  rw [terminalsAt_eq]
  cases procs[position]? <;> simp

theorem Proc.slot_mem_of_terminal {proc : Proc P} {var : Nat} {terminal : Terminal}
    (member : terminal ∈ proc.terminals var) : terminal.slot ∈ proc.slots := by
  induction proc generalizing var with
  | native head slot =>
      rw [Proc.terminals, List.mem_singleton] at member
      rw [member, Proc.slots]
      exact List.mem_singleton_self slot
  | subnet head procs order presets forwards inductionHypothesis =>
      rw [Proc.terminals, List.mem_flatMap] at member
      obtain ⟨target, -, reached⟩ := member
      obtain ⟨inner, found, inside⟩ := mem_terminalsAt.mp reached
      have innerMember := List.mem_of_getElem? found
      rw [Proc.slots]
      exact mem_slotsOf.mpr ⟨inner, innerMember, inductionHypothesis inner innerMember inside⟩

/-! ## Networks inside a network -/

namespace Level

def slots (level : Level P) : List Nat := slotsOf level.procs

/-- The procs that each proc reads from. -/
def sources (level : Level P) : List (List Nat) :=
  level.procs.map fun proc => proc.head.inputs.map (·.sourceProc)

/-- A network is inside another one: it is that network, or inside one of its subnets. -/
inductive Within : Level P → Level P → Prop where
  | self (level : Level P) : Within level level
  | inner {level : Level P} {proc : Proc P} {below inside : Level P}
      (member : proc ∈ level.procs) (isSubnet : proc.inner? = some below)
      (deeper : Within below inside) : Within level inside

theorem Within.trans {outer middle inside : Level P} (first : outer.Within middle)
    (second : middle.Within inside) : outer.Within inside := by
  induction first with
  | self level => exact second
  | inner member isSubnet _ inductionHypothesis =>
      exact .inner member isSubnet (inductionHypothesis second)

end Level

theorem Proc.slots_of_inner? {proc : Proc P} {level : Level P}
    (isSubnet : proc.inner? = some level) : proc.slots = level.slots := by
  cases proc with
  | native head slot => cases isSubnet
  | subnet head procs order presets forwards =>
      cases isSubnet
      rw [Proc.slots, Level.slots]

namespace Level

/-- The cells of an inner network are cells of the network around it, in order. -/
theorem Within.slots_sublist {level inside : Level P} (within : level.Within inside) :
    inside.slots.Sublist level.slots := by
  induction within with
  | self level => exact List.Sublist.refl _
  | @inner level proc below inside member isSubnet _ inductionHypothesis =>
      apply inductionHypothesis.trans
      rw [← proc.slots_of_inner? isSubnet]
      show proc.slots.Sublist (slotsOf level.procs)
      rw [slotsOf_eq_flatMap]
      exact List.sublist_flatten_of_mem (List.mem_map_of_mem member)

end Level

/-- The cells of procs inside a subnet are cells of the subnet. -/
theorem Proc.slot_mem_of_within {proc inner : Proc P} {level inside : Level P}
    (isSubnet : proc.inner? = some level) (within : level.Within inside)
    (member : inner ∈ inside.procs) {slot : Nat} (here : slot ∈ inner.slots) :
    slot ∈ proc.slots := by
  rw [proc.slots_of_inner? isSubnet]
  exact within.slots_sublist.subset (mem_slotsOf.mpr ⟨inner, member, here⟩)

/-! ## Instructions -/

theorem programs_eq_map (procs : List (Proc P)) : programs procs = procs.map Proc.program := by
  induction procs with
  | nil => rfl
  | cons proc rest inductionHypothesis => rw [programs, List.map_cons, inductionHypothesis]

/-- What a cycle does for the proc at a position: it copies the connections, and steps
what is there. -/
def Level.block (level : Level P) (position : Nat) : List Instruction :=
  copiesAt level.procs position ++ ((level.procs[position]?).map Proc.program).getD []

theorem Level.program_eq_flatMap (level : Level P) :
    level.program = level.order.flatMap level.block := by
  simp only [Level.program, programs_eq_map, List.getElem?_map]
  rfl

theorem Proc.program_of_inner? {proc : Proc P} {level : Level P}
    (isSubnet : proc.inner? = some level) : proc.program = level.program := by
  cases proc with
  | native head slot => cases isSubnet
  | subnet head procs order presets forwards =>
      cases isSubnet
      rw [Proc.program, Level.program]

theorem Level.block_of_getElem? {level : Level P} {position : Nat} {proc : Proc P}
    (found : level.procs[position]? = some proc) :
    level.block position = proc.copies level.procs ++ proc.program := by
  simp only [Level.block, copiesAt, found, Option.map_some, Option.getD_some]

end SignalNet
