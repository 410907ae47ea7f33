import Mathlib.Data.List.Perm.Subperm
import Mathlib.Data.List.Nodup
import Mathlib.Data.List.Range
import SignalNet.Network.Order

/-!
Contract: what an order of execution is, and that releases find one.

A proc may only be stepped behind every proc it reads from. `ExecutionOrder` says
so for a list of positions without mentioning how it was found.

Owns: the invariant of the releases (`Release.Sound`), kept by every release
(`Release.Sound.serve`), and its consequence for a finished run of releases
(`executionOrder_of_releaseOrder`).
-/

set_option autoImplicit false

namespace SignalNet

/-- The procs that the proc at a position reads from, with repetitions. -/
def sourcesAt (sources : List (List Nat)) (position : Nat) : List Nat :=
  sources[position]?.getD []

/-- Every source of a proc stands before it. -/
def SourcesFirst (sources : List (List Nat)) (order : List Nat) : Prop :=
  ∀ earlier position later, order = earlier ++ position :: later →
    ∀ source ∈ sourcesAt sources position, source ∈ earlier

/-- A permutation of all positions in which every proc follows all of its sources. -/
structure ExecutionOrder (sources : List (List Nat)) (order : List Nat) : Prop where
  perm : order.Perm (List.range sources.length)
  sourcesFirst : SourcesFirst sources order

namespace ExecutionOrder

variable {sources : List (List Nat)} {order : List Nat}

theorem nodup (executionOrder : ExecutionOrder sources order) : order.Nodup :=
  executionOrder.perm.nodup_iff.mpr List.nodup_range

theorem mem_iff (executionOrder : ExecutionOrder sources order) (position : Nat) :
    position ∈ order ↔ position < sources.length := by
  rw [executionOrder.perm.mem_iff, List.mem_range]

end ExecutionOrder

theorem sourcesFirst_nil (sources : List (List Nat)) : SourcesFirst sources [] := by
  intro earlier position later split
  simp at split

theorem SourcesFirst.snoc {sources : List (List Nat)} {order : List Nat} {last : Nat}
    (sourcesFirst : SourcesFirst sources order)
    (sourcesPresent : ∀ source ∈ sourcesAt sources last, source ∈ order) :
    SourcesFirst sources (order ++ [last]) := by
  intro earlier position later split source member
  rcases List.append_eq_append_iff.mp split with
    ⟨gap, earlierEq, lastEq⟩ | ⟨gap, orderEq, laterEq⟩
  · -- the split lies behind the old order, so it is at the new proc
    cases gap with
    | nil =>
        obtain ⟨rfl, -⟩ : last = position ∧ [] = later := by simpa using lastEq
        rw [earlierEq, List.append_nil]
        exact sourcesPresent source member
    | cons head tail => simp at lastEq
  · cases gap with
    | nil =>
        obtain ⟨rfl, -⟩ : position = last ∧ later = [] := by simpa using laterEq
        rw [List.append_nil] at orderEq
        rw [← orderEq]
        exact sourcesPresent source member
    | cons head tail =>
        obtain ⟨rfl, -⟩ : position = head ∧ later = tail ++ [last] := by simpa using laterEq
        exact sourcesFirst earlier position tail orderEq source member

/-- Behind what is done, no proc reads from one that is still behind it. -/
theorem SourcesFirst.pairwise {sources : List (List Nat)} {done rest : List Nat}
    (sourcesFirst : SourcesFirst sources (done ++ rest)) (nodup : (done ++ rest).Nodup) :
    rest.Pairwise fun earlier later => later ∉ sourcesAt sources earlier := by
  induction rest generalizing done with
  | nil => exact List.Pairwise.nil
  | cons position rest inductionHypothesis =>
      rw [List.pairwise_cons]
      constructor
      · intro later member isSource
        have isDone := sourcesFirst done position rest rfl later isSource
        exact (List.nodup_append.mp nodup).2.2 later isDone later
          (List.mem_cons_of_mem _ member) rfl
      · rw [List.append_cons] at sourcesFirst nodup
        exact inductionHypothesis sourcesFirst nodup

theorem ExecutionOrder.pairwise {sources : List (List Nat)} {order : List Nat}
    (executionOrder : ExecutionOrder sources order) :
    order.Pairwise fun earlier later => later ∉ sourcesAt sources earlier :=
  @SourcesFirst.pairwise sources [] order executionOrder.sourcesFirst executionOrder.nodup

namespace Release

/-- The number of connections of a proc from procs that were not released. -/
def unserved (released inputs : List Nat) : Nat :=
  inputs.countP fun source => source ∉ released

theorem unserved_snoc (released inputs : List Nat) (proc : Nat)
    (fresh : proc ∉ released) :
    unserved released inputs = unserved (released ++ [proc]) inputs + inputs.count proc := by
  unfold unserved
  induction inputs with
  | nil => rfl
  | cons source rest inductionHypothesis =>
      rw [List.countP_cons, List.countP_cons, List.count_cons, inductionHypothesis]
      by_cases served : source = proc
      · subst served
        simp only [fresh, List.mem_append, List.mem_singleton, or_true, not_true_eq_false,
          not_false_eq_true, decide_true, decide_false, beq_self_eq_true, if_true,
          Bool.false_eq_true, if_false]
        omega
      · simp only [List.mem_append, List.mem_singleton, served, or_false, beq_iff_eq, if_false]
        omega

/-- What holds after any number of releases. -/
structure Sound (sources : List (List Nat)) (state : Release) : Prop where
  waiting_eq : state.waiting =
    sources.map fun inputs => (unserved state.released inputs : Int)
  nodup : state.released.Nodup
  below : ∀ proc ∈ state.released, proc < sources.length
  sourcesFirst : SourcesFirst sources state.released

variable {sources : List (List Nat)} {state : Release}

theorem sound_start (sources : List (List Nat)) : Sound sources (start sources) where
  waiting_eq := by simp [start, unserved]
  nodup := List.nodup_nil
  below := by simp [start]
  sourcesFirst := sourcesFirst_nil sources

theorem Sound.of_next? (sound : Sound sources state) {proc : Nat}
    (next : state.next? = some proc) :
    proc < sources.length ∧ proc ∉ state.released ∧
      ∀ source ∈ sourcesAt sources proc, source ∈ state.released := by
  have accepted := List.find?_some next
  rw [Bool.and_eq_true, beq_iff_eq] at accepted
  obtain ⟨countZero, fresh⟩ := accepted
  rw [sound.waiting_eq, List.getElem?_map, Option.map_eq_some_iff] at countZero
  obtain ⟨inputs, found, noneUnserved⟩ := countZero
  refine ⟨(List.getElem?_eq_some_iff.mp found).1, by simpa using fresh, ?_⟩
  intro source member
  rw [sourcesAt, found, Option.getD_some] at member
  have allServed : unserved state.released inputs = 0 := by exact_mod_cast noneUnserved
  have served := List.countP_eq_zero.mp allServed source member
  simpa using served

theorem Sound.serve (sound : Sound sources state) {proc : Nat}
    (next : state.next? = some proc) : Sound sources (state.serve sources proc) := by
  obtain ⟨below, fresh, sourcesReleased⟩ := sound.of_next? next
  refine ⟨?_, ?_, ?_, sound.sourcesFirst.snoc sourcesReleased⟩
  · rw [Release.serve, sound.waiting_eq, List.zipWith_map_right, List.zipWith_self]
    apply List.map_congr_left
    intro inputs _
    rw [unserved_snoc state.released inputs proc fresh]
    push_cast
    omega
  · simp only [Release.serve]
    rw [List.nodup_append]
    refine ⟨sound.nodup, List.nodup_singleton proc, ?_⟩
    intro released member other isLast equal
    rw [List.mem_singleton.mp isLast] at equal
    exact fresh (equal ▸ member)
  · intro released member
    rcases List.mem_append.mp member with old | last
    · exact sound.below released old
    · rw [List.mem_singleton.mp last]
      exact below

/-- Any number of releases keep the invariant. -/
theorem Sound.run (steps : Nat) (sound : Sound sources state) :
    Sound sources (Release.run sources steps state) := by
  induction steps generalizing state with
  | zero => exact sound
  | succ steps inductionHypothesis =>
      rw [Release.run]
      cases next : state.next? with
      | none => exact sound
      | some proc => exact inductionHypothesis (sound.serve next)

end Release

theorem perm_range_of_nodup {positions : List Nat} {count : Nat} (nodup : positions.Nodup)
    (below : ∀ position ∈ positions, position < count) (complete : positions.length = count) :
    positions.Perm (List.range count) := by
  have contained : List.Subperm positions (List.range count) :=
    List.subperm_of_subset nodup fun position member =>
      List.mem_range.mpr (below position member)
  exact contained.perm_of_length_le (by rw [List.length_range, complete])

/-- An order that the releases find is an order of execution. -/
theorem executionOrder_of_releaseOrder {sources : List (List Nat)} {order : List Nat}
    (found : releaseOrder sources = .ok order) : ExecutionOrder sources order := by
  have sound := (Release.sound_start sources).run sources.length
  simp only [releaseOrder] at found
  split at found
  · rename_i complete
    cases found
    exact ⟨perm_range_of_nodup sound.nodup sound.below complete, sound.sourcesFirst⟩
  · cases found

end SignalNet
