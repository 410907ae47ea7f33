import SignalNet.Proofs.Network.Counterparts

/-!
Contract: what is inside a voice belongs to that voice.

A subnet hands its number down to the level inside it. A proc on a numbered level gets the
number of the level, because voices inside voices are refused. So everything inside a voice
has its number, at every depth. A cell belongs to one native proc, so a write through a
variable of a voice ends in cells that no other voice has.

Owns: `Level.HandsDown`, `Proc.leaves` and the one native proc of a cell, and the sites of a
network by where they are in the tree.
-/

set_option autoImplicit false

namespace SignalNet

variable {P : Type}

/-! ## Numbers -/

namespace Build

theorem voices_of_voice {description : ClassDescription P} {spec : ProcSpec} {number : Nat}
    {numbers : List (Option Nat)} (voiced : voices description spec (some number) = .ok numbers) :
    numbers = [some number] := by
  unfold voices at voiced
  split at voiced
  · exact (Except.ok.inj voiced).symm
  · split at voiced
    · cases voiced
    · cases voiced

variable [Processor P] {environment : Environment P} {inner : LevelBuilder P}
  {store after : Store P}

theorem replica_of_created {specs : List ProcSpec} {created : List (Proc P × ProcSpec)}
    {number : Nat} (made : Created environment inner specs (some number) store created after) :
    ∀ item ∈ created, item.1.head.replica = some number := by
  induction made with
  | nil store => exact List.forall_mem_nil _
  | cons _ _ voiced isVoice made _ inductionHypothesis =>
      rw [voices_of_voice voiced, List.mem_singleton] at isVoice
      refine List.forall_mem_cons.mpr ⟨?_, inductionHypothesis⟩
      rw [← isVoice]
      exact congrArg (·.2.1) (origin_of_createProc made)

theorem replica_of_buildNested {depth number : Nat} {template : Template} {exposed : List VarRef}
    {level : Level P}
    (built : buildNested environment depth template (some number) exposed store =
      .ok (level, after)) : ∀ proc ∈ level.procs, proc.head.replica = some number := by
  cases depth with
  | zero => cases built
  | succ depth =>
      obtain ⟨created, middle, assembled⟩ := assembled_of_buildLevel built
      intro proc member
      obtain ⟨item, wasCreated, inputs, rfl⟩ := exists_created_of_bindInputs assembled.bound member
      have sameReplica := congrArg (·.2.1) (item.1.origin_withInputs inputs)
      exact sameReplica.trans (replica_of_created assembled.made item wasCreated)

end Build

/-- The subnets of a level that have a number give it to all procs inside them. -/
def Level.HandsDown (level : Level P) : Prop :=
  ∀ proc ∈ level.procs, ∀ below, proc.inner? = some below → ∀ number,
    proc.head.replica = some number → ∀ inner ∈ below.procs, inner.head.replica = some number

/-- In a built network, voices hand their numbers down at every depth. -/
theorem Build.handsDown_of_build [Processor P] {classes : ClassSet P} {template : Template}
    {timing : Timing} {devices : List Device} {network : Network P}
    (built : Network.build classes template timing devices = .ok network) {inside : Level P}
    (within : network.level.Within inside) : inside.HandsDown := by
  refine forall_within_of_buildNested (motive := Level.HandsDown) ?_
    (buildNested_of_build built).1 within
  intro depth template replica exposed store created middle level after assembled proc member below
    isSubnet number numbered
  cases proc with
  | native head slot => cases isSubnet
  | subnet head procs order presets targets =>
      cases isSubnet
      obtain ⟨spec, template, before, next, -, -, belowBuilt, -⟩ := assembled.subnet_of_mem member
      have isVoice : head.replica = some number := numbered
      rw [isVoice] at belowBuilt
      exact replica_of_buildNested belowBuilt

/-- The native variables behind a variable of a voice are inside that voice. -/
theorem Proc.Reaches.replica_eq {level : Level P}
    (handsDown : ∀ inside, level.Within inside → inside.HandsDown) {proc : Proc P} {var : Nat}
    {head : ProcHead P} {terminal : Terminal} (reaches : proc.Reaches var head terminal)
    {inside : Level P} (within : level.Within inside) (member : proc ∈ inside.procs) {number : Nat}
    (numbered : proc.head.replica = some number) : head.replica = some number := by
  induction reaches generalizing inside with
  | native head slot var => exact numbered
  | forward _ _ found _ inductionHypothesis =>
      have isInner := List.mem_of_getElem? found
      exact inductionHypothesis (within.trans (.inner member rfl (.self _))) isInner
        (handsDown inside within _ member _ rfl number numbered _ isInner)

/-! ## Cells -/

mutual

/-- The native procs in a proc: their heads and their cells. -/
def Proc.leaves : Proc P → List (ProcHead P × Nat)
  | .native head slot => [(head, slot)]
  | .subnet _ procs _ _ _ => leavesOf procs

def leavesOf : List (Proc P) → List (ProcHead P × Nat)
  | [] => []
  | proc :: rest => proc.leaves ++ leavesOf rest

end

theorem leavesOf_eq_flatMap (procs : List (Proc P)) :
    leavesOf procs = procs.flatMap Proc.leaves := by
  induction procs with
  | nil => rfl
  | cons proc rest inductionHypothesis => rw [leavesOf, List.flatMap_cons, inductionHypothesis]

theorem Proc.slots_eq_map_leaves (proc : Proc P) : proc.slots = proc.leaves.map (·.2) := by
  induction proc with
  | native head slot => simp only [Proc.slots, Proc.leaves, List.map_cons, List.map_nil]
  | subnet head procs order presets forwards inductionHypothesis =>
      rw [Proc.slots, Proc.leaves, slotsOf_eq_flatMap, leavesOf_eq_flatMap, List.map_flatMap]
      exact List.flatMap_congr inductionHypothesis

namespace Level

def leaves (level : Level P) : List (ProcHead P × Nat) := leavesOf level.procs

theorem slots_eq_map_leaves (level : Level P) : level.slots = level.leaves.map (·.2) := by
  rw [slots, leaves, slotsOf_eq_flatMap, leavesOf_eq_flatMap, List.map_flatMap]
  exact List.flatMap_congr fun proc _ => proc.slots_eq_map_leaves

theorem Within.mem_leaves {level inside : Level P} (within : level.Within inside)
    {head : ProcHead P} {slot : Nat} (member : .native head slot ∈ inside.procs) :
    (head, slot) ∈ level.leaves := by
  induction within with
  | self level =>
      rw [leaves, leavesOf_eq_flatMap]
      refine List.mem_flatMap_of_mem member ?_
      rw [Proc.leaves]
      exact List.mem_singleton_self _
  | @inner level proc below inside isProc isSubnet _ inductionHypothesis =>
      rw [leaves, leavesOf_eq_flatMap]
      refine List.mem_flatMap_of_mem isProc ?_
      cases proc with
      | native head slot => cases isSubnet
      | subnet head procs order presets forwards =>
          cases isSubnet
          rw [Proc.leaves]
          exact inductionHypothesis member

end Level

theorem Proc.Reaches.mem_leaves {proc : Proc P} {var : Nat} {head : ProcHead P}
    {terminal : Terminal} (reaches : proc.Reaches var head terminal) {level inside : Level P}
    (within : level.Within inside) (member : proc ∈ inside.procs) :
    (head, terminal.slot) ∈ level.leaves := by
  induction reaches generalizing inside with
  | native head slot var => exact within.mem_leaves member
  | forward _ _ found _ inductionHypothesis =>
      exact inductionHypothesis (within.trans (.inner member rfl (.self _)))
        (List.mem_of_getElem? found)

/-- A cell of a built network belongs to one native proc. -/
theorem Build.head_unique_of_build [Processor P] {classes : ClassSet P} {template : Template}
    {timing : Timing} {devices : List Device} {network : Network P}
    (built : Network.build classes template timing devices = .ok network) {head other : ProcHead P}
    {slot : Nat} (isLeaf : (head, slot) ∈ network.level.leaves)
    (alsoLeaf : (other, slot) ∈ network.level.leaves) : other = head := by
  have nodup := nodup_slots_of_build built (.self _)
  rw [Level.slots_eq_map_leaves] at nodup
  exact congrArg Prod.fst (List.inj_on_of_nodup_map nodup alsoLeaf isLeaf rfl)

/-! ## Sites -/

theorem sitesOf_eq_flatMap (presets : List NetworkPreset) (procs : List (Proc P)) :
    sitesOf presets procs = procs.flatMap (Proc.sites presets) := by
  induction procs with
  | nil => rfl
  | cons proc rest inductionHypothesis => rw [sitesOf, List.flatMap_cons, inductionHypothesis]

theorem Level.Within.of_mem_sites {level inside : Level P} (within : level.Within inside)
    {proc : Proc P} (member : proc ∈ inside.procs) {site : Site P}
    (listed : site ∈ proc.sites inside.presets) :
    ∃ around, level.Within around ∧ site.proc ∈ around.procs ∧ site.presets = around.presets := by
  induction proc generalizing inside with
  | native head slot =>
      rw [Proc.sites, List.mem_singleton] at listed
      subst listed
      exact ⟨inside, within, member, rfl⟩
  | subnet head procs order presets forwards inductionHypothesis =>
      rw [Proc.sites, sitesOf_eq_flatMap, List.mem_append, List.mem_flatMap,
        List.mem_singleton] at listed
      rcases listed with ⟨inner, isInner, ofInner⟩ | rfl
      · exact inductionHypothesis inner isInner (within.trans (.inner member rfl (.self _)))
          isInner ofInner
      · exact ⟨inside, within, member, rfl⟩

/-- A site of a network is a proc on one of the levels inside it, with the presets of that
level. -/
theorem Level.exists_within_of_mem_sites {level : Level P} {site : Site P}
    (listed : site ∈ level.sites) :
    ∃ around, level.Within around ∧ site.proc ∈ around.procs ∧ site.presets = around.presets := by
  rw [Level.sites, sitesOf_eq_flatMap, List.mem_flatMap] at listed
  obtain ⟨proc, member, ofProc⟩ := listed
  exact (Level.Within.self level).of_mem_sites member ofProc

end SignalNet
