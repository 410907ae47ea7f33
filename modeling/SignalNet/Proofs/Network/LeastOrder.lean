import SignalNet.Native.Builtin
import SignalNet.Network.Build
import SignalNet.Proofs.Network.ExecutionOrder
import SignalNet.Proofs.Schema.Circularity

/-!
Contract: releases find the least order of execution, and find one wherever there is one.

A release takes the first proc that waits for nothing. Any order of execution that agrees with
the releases so far goes on with a proc that waits for nothing too, so with the same one or with
a later one. Where every proc that is left waits, each of them reads from another one that is
left, which leads back to one of them.

Owns: circles of connections (`Acyclic`), the connections that a release takes off one by one
(`dependents`), and the law of the order of execution (`releases_find_least_order`).
-/

set_option autoImplicit false

namespace SignalNet

open Relation (TransGen)

/-- The first proc reads from the second. -/
def ReadsFrom (sources : List (List Nat)) (reader source : Nat) : Prop :=
  source ∈ sourcesAt sources reader

/-- No proc reads from itself, directly or through others. -/
def Acyclic (sources : List (List Nat)) : Prop :=
  ∀ proc, ¬ TransGen (ReadsFrom sources) proc proc

/-- All connections come from procs that are there. -/
def InRange (sources : List (List Nat)) : Prop :=
  ∀ inputs ∈ sources, ∀ source ∈ inputs, source < sources.length

variable {sources : List (List Nat)}

theorem lt_of_readsFrom {reader source : Nat} (reads : ReadsFrom sources reader source) :
    reader < sources.length := by
  refine Nat.lt_of_not_le fun beyond => ?_
  rw [ReadsFrom, sourcesAt, List.getElem?_eq_none beyond] at reads
  cases reads

theorem InRange.lt (inRange : InRange sources) {reader source : Nat}
    (reads : ReadsFrom sources reader source) : source < sources.length := by
  have below := lt_of_readsFrom reads
  rw [ReadsFrom, sourcesAt, List.getElem?_eq_getElem below, Option.getD_some] at reads
  exact inRange _ (List.getElem_mem below) source reads

/-- The first list is the second one, or comes before it in the order of a dictionary. -/
def DictionaryLE (left right : List Nat) : Prop := left = right ∨ List.Lex (· < ·) left right

theorem dictionaryLE_nil (numbers : List Nat) : DictionaryLE [] numbers := by
  cases numbers with
  | nil => exact .inl rfl
  | cons first rest => exact .inr .nil

theorem DictionaryLE.cons {left right : List Nat} (first : Nat)
    (least : DictionaryLE left right) : DictionaryLE (first :: left) (first :: right) :=
  least.imp (congrArg (first :: ·)) .cons

/-! ## Orders of execution have no circles -/

namespace ExecutionOrder

variable {order : List Nat}

/-- Along connections, positions in the order go down. -/
theorem idxOf_lt (executionOrder : ExecutionOrder sources order) {reader source : Nat}
    (reads : ReadsFrom sources reader source) : order.idxOf source < order.idxOf reader := by
  have listed : reader ∈ order := (executionOrder.mem_iff reader).mpr (lt_of_readsFrom reads)
  obtain ⟨earlier, later, split, fresh⟩ := List.eq_append_cons_of_mem listed
  have before := executionOrder.sourcesFirst earlier reader later split source reads
  rw [split, List.idxOf_append_of_mem before, List.idxOf_append_of_notMem fresh,
    List.idxOf_cons_self, Nat.add_zero]
  exact List.idxOf_lt_length_of_mem before

theorem acyclic (executionOrder : ExecutionOrder sources order) : Acyclic sources := by
  have descends : ∀ reader source, TransGen (ReadsFrom sources) reader source →
      order.idxOf source < order.idxOf reader := by
    intro reader source path
    induction path with
    | single reads => exact executionOrder.idxOf_lt reads
    | tail _ reads inductionHypothesis =>
        exact (executionOrder.idxOf_lt reads).trans inductionHypothesis
  exact fun proc circle => Nat.lt_irrefl _ (descends proc proc circle)

/-- Behind what an order and another list have in common, the order goes on with a proc all
of whose sources are common. -/
theorem ready_of_append {common rest : List Nat} {proc : Nat}
    (executionOrder : ExecutionOrder sources (common ++ proc :: rest)) :
    proc < sources.length ∧ proc ∉ common ∧
      ∀ source ∈ sourcesAt sources proc, source ∈ common := by
  refine ⟨?_, fun repeated => ?_, executionOrder.sourcesFirst common proc rest rfl⟩
  · exact (executionOrder.mem_iff proc).mp (List.mem_append_right _ List.mem_cons_self)
  · exact (List.nodup_append.mp executionOrder.nodup).2.2 proc repeated proc List.mem_cons_self rfl

end ExecutionOrder

namespace Release

variable {state : Release}

/-! ## Counts -/

theorem Sound.waiting_nonneg (sound : Sound sources state) :
    ∀ count ∈ state.waiting, 0 ≤ count := by
  rw [sound.waiting_eq]
  intro count member
  obtain ⟨inputs, -, rfl⟩ := List.mem_map.mp member
  exact Int.natCast_nonneg _

theorem Sound.length_waiting (sound : Sound sources state) :
    state.waiting.length = sources.length := by
  rw [sound.waiting_eq, List.length_map]

/-- The readers of a proc, once for each of their connections from it. -/
def dependents (sources : List (List Nat)) (proc : Nat) : List Nat :=
  sources.zipIdx.flatMap fun (inputs, reader) => List.replicate (inputs.count proc) reader

/-- A reader waits for one connection less. -/
def payOff (waiting : List Int) (reader : Nat) : List Int := waiting.modify reader (· - 1)

theorem getElem?_foldl_payOff (readers : List Nat) (waiting : List Int) (position : Nat) :
    (readers.foldl payOff waiting)[position]? =
      waiting[position]?.map (· - (readers.count position : Int)) := by
  induction readers generalizing waiting with
  | nil => simp
  | cons reader rest inductionHypothesis =>
      rw [List.foldl_cons, inductionHypothesis, payOff, List.getElem?_modify, List.count_cons]
      cases waiting[position]? with
      | none => rfl
      | some count =>
          by_cases here : reader = position
          · simp only [here, if_true, beq_self_eq_true, Option.map_some, Option.map_eq_map,
              Option.some.injEq]
            push_cast
            omega
          · simp [here]

theorem count_dependents_from (sources : List (List Nat)) (proc start reader : Nat) :
    ((sources.zipIdx start).flatMap fun (inputs, reader) =>
        List.replicate (inputs.count proc) reader).count reader =
      if start ≤ reader then (sourcesAt sources (reader - start)).count proc else 0 := by
  induction sources generalizing start with
  | nil => simp [sourcesAt]
  | cons inputs rest inductionHypothesis =>
      rw [List.zipIdx_cons, List.flatMap_cons, List.count_append, inductionHypothesis,
        List.count_replicate]
      rcases Nat.lt_trichotomy start reader with before | rfl | behind
      · obtain ⟨offset, rfl⟩ := Nat.exists_eq_add_of_lt before
        have shifted : start + offset + 1 - start = (start + offset + 1 - (start + 1)) + 1 := by
          omega
        rw [if_neg (by simp; omega), if_pos (by omega), if_pos (by omega), Nat.zero_add, shifted]
        rfl
      · simp [sourcesAt]
      · rw [if_neg (by simp; omega), if_neg (by omega), if_neg (by omega)]

theorem count_dependents (sources : List (List Nat)) (proc reader : Nat) :
    (dependents sources proc).count reader = (sourcesAt sources reader).count proc := by
  rw [dependents, count_dependents_from, if_pos (Nat.zero_le _), Nat.sub_zero]

/-- A release takes the connections from the proc off the counts, one after the other. -/
theorem Sound.waiting_serve (sound : Sound sources state) (proc : Nat) :
    (state.serve sources proc).waiting = (dependents sources proc).foldl payOff state.waiting := by
  apply List.ext_getElem?
  intro position
  rw [getElem?_foldl_payOff, count_dependents, Release.serve, List.getElem?_zipWith, sourcesAt,
    sound.waiting_eq, List.getElem?_map]
  cases sources[position]? <;> rfl

/-- While the connections from a proc are taken off, no count falls below zero. -/
theorem Sound.payOff_nonneg (sound : Sound sources state) {proc : Nat}
    (next : state.next? = some proc) {paid : List Nat}
    (isPrefix : paid <+: dependents sources proc) :
    ∀ count ∈ paid.foldl payOff state.waiting, 0 ≤ count := by
  intro count member
  obtain ⟨position, here⟩ := List.mem_iff_getElem?.mp member
  obtain ⟨before, there, rfl⟩ := Option.map_eq_some_iff.mp
    ((getElem?_foldl_payOff paid state.waiting position).symm.trans here)
  -- the count that is left after all connections from the proc is not negative either
  have final := (sound.serve next).waiting_nonneg
    (before - (dependents sources proc).count position) (List.mem_iff_getElem?.mpr ⟨position, by
      rw [sound.waiting_serve, getElem?_foldl_payOff, there, Option.map_some]⟩)
  have fewer := isPrefix.sublist.count_le position
  omega

/-! ## Releases end with every proc, or at a circle -/

theorem Sound.ready_iff (sound : Sound sources state) {proc : Nat} (below : proc < sources.length) :
    state.waiting[proc]? = some 0 ↔ ∀ source ∈ sourcesAt sources proc, source ∈ state.released := by
  rw [sound.waiting_eq, List.getElem?_map, sourcesAt, List.getElem?_eq_getElem below,
    Option.map_some, Option.getD_some, Option.some.injEq, Int.natCast_eq_zero, unserved,
    List.countP_eq_zero]
  simp

/-- The next release is the first proc that was not released and all of whose sources were. -/
theorem Sound.next?_le (sound : Sound sources state) {proc other : Nat}
    (next : state.next? = some proc) (below : other < sources.length)
    (fresh : other ∉ state.released)
    (ready : ∀ source ∈ sourcesAt sources other, source ∈ state.released) : proc ≤ other := by
  refine Nat.le_of_not_lt fun earlier => ?_
  have passed := (List.find?_range_eq_some.mp next).2.2 other earlier
  rw [(sound.ready_iff below).mpr ready] at passed
  simp [fresh] at passed

theorem Sound.exists_waiting_of_next?_eq_none (sound : Sound sources state)
    (stuck : state.next? = none) {proc : Nat} (below : proc < sources.length)
    (fresh : proc ∉ state.released) : ∃ source, ReadsFrom sources proc source ∧
      source ∉ state.released := by
  have passed := List.find?_eq_none.mp stuck proc
    (List.mem_range.mpr (sound.length_waiting ▸ below))
  by_contra none
  push Not at none
  rw [(sound.ready_iff below).mpr none] at passed
  simp [fresh] at passed

/-- Every step releases a proc, unless the releases are stuck. -/
theorem run_progress (steps : Nat) (state : Release) :
    (run sources steps state).released.length = state.released.length + steps ∨
      (run sources steps state).next? = none := by
  induction steps generalizing state with
  | zero => exact .inl rfl
  | succ steps inductionHypothesis =>
      rw [run]
      cases next : state.next? with
      | none => exact .inr next
      | some proc =>
          refine (inductionHypothesis (state.serve sources proc)).imp (fun count => ?_) id
          rw [count, serve, List.length_append, List.length_singleton]
          omega

/-- The procs that were not released yet. -/
def left (sources : List (List Nat)) (state : Release) : List Nat :=
  (List.range sources.length).filter (· ∉ state.released)

theorem mem_left {proc : Nat} :
    proc ∈ state.left sources ↔ proc < sources.length ∧ proc ∉ state.released := by
  simp [left]

/-- Where fewer procs were released than there are, some are left. -/
theorem Sound.left_ne_nil (sound : Sound sources state)
    (incomplete : state.released.length ≠ sources.length) : state.left sources ≠ [] := by
  intro isEmpty
  have covered : List.range sources.length ⊆ state.released := by
    intro proc listed
    simpa using List.filter_eq_nil_iff.mp isEmpty proc listed
  have isRange : state.released ⊆ List.range sources.length := fun proc member =>
    List.mem_range.mpr (sound.below proc member)
  have atLeast := (List.subperm_of_subset List.nodup_range covered).length_le
  have atMost := (List.subperm_of_subset sound.nodup isRange).length_le
  rw [List.length_range] at atLeast atMost
  exact incomplete (Nat.le_antisymm atMost atLeast)

/-- When the releases are stuck, those that are left all read from others that are left. -/
theorem Sound.reads_left (sound : Sound sources state) (inRange : InRange sources)
    (stuck : state.next? = none) {proc : Nat} (isLeft : proc ∈ state.left sources) :
    ∃ source ∈ state.left sources, ReadsFrom sources proc source := by
  obtain ⟨below, fresh⟩ := mem_left.mp isLeft
  obtain ⟨source, reads, alsoFresh⟩ := sound.exists_waiting_of_next?_eq_none stuck below fresh
  exact ⟨source, mem_left.mpr ⟨inRange.lt reads, alsoFresh⟩, reads⟩

/-- Releases that end before every proc is released are stuck. -/
theorem next?_eq_none_of_incomplete
    (incomplete : (run sources sources.length (start sources)).released.length ≠ sources.length) :
    (run sources sources.length (start sources)).next? = none := by
  rcases run_progress sources.length (start sources) with full | stuck
  · rw [start, List.length_nil, Nat.zero_add] at full
    exact absurd full incomplete
  · exact stuck

/-- Without circles, all procs are released. -/
theorem length_released_of_acyclic (inRange : InRange sources) (acyclic : Acyclic sources) :
    (run sources sources.length (start sources)).released.length = sources.length := by
  by_contra incomplete
  have sound := (sound_start sources).run sources.length
  have stuck := next?_eq_none_of_incomplete incomplete
  obtain ⟨proc, circle⟩ := exists_circle (sound.left_ne_nil incomplete)
    fun proc => sound.reads_left inRange stuck
  exact acyclic proc circle

/-! ## The least order -/

theorem released_isPrefix (steps : Nat) (state : Release) :
    state.released <+: (run sources steps state).released := by
  induction steps generalizing state with
  | zero => exact List.prefix_refl _
  | succ steps inductionHypothesis =>
      rw [run]
      split
      · exact List.prefix_refl _
      · rename_i proc _
        exact (List.prefix_append _ _).trans (inductionHypothesis (state.serve sources proc))

/-- What is released from a state on is at most what any order of execution has behind the
releases so far. -/
theorem Sound.exists_le (sound : Sound sources state) (steps : Nat) {rest : List Nat}
    (other : ExecutionOrder sources (state.released ++ rest)) :
    ∃ further, (Release.run sources steps state).released = state.released ++ further ∧
      DictionaryLE further rest := by
  induction steps generalizing state rest with
  | zero => exact ⟨[], (List.append_nil _).symm, dictionaryLE_nil rest⟩
  | succ steps inductionHypothesis =>
      rw [Release.run]
      cases next : state.next? with
      | none => exact ⟨[], (List.append_nil _).symm, dictionaryLE_nil rest⟩
      | some proc =>
          obtain ⟨below, fresh, -⟩ := sound.of_next? next
          cases rest with
          | nil =>
              rw [List.append_nil] at other
              exact absurd ((other.mem_iff proc).mpr below) fresh
          | cons first rest =>
              obtain ⟨firstBelow, firstFresh, ready⟩ := other.ready_of_append
              rcases Nat.lt_or_eq_of_le (sound.next?_le next firstBelow firstFresh ready) with
                smaller | rfl
              · obtain ⟨further, released⟩ : (state.serve sources proc).released <+:
                    (Release.run sources steps (state.serve sources proc)).released :=
                  released_isPrefix steps _
                refine ⟨proc :: further, ?_, .inr (.rel smaller)⟩
                rw [← released, Release.serve, ← List.append_cons]
              · have remaining :
                    ExecutionOrder sources ((state.serve sources proc).released ++ rest) := by
                  rwa [Release.serve, ← List.append_cons]
                obtain ⟨further, released, least⟩ :=
                  inductionHypothesis (sound.serve next) remaining
                refine ⟨proc :: further, ?_, least.cons proc⟩
                rw [released, Release.serve, ← List.append_cons]

end Release

/-- The order that releases find is the least order of execution. -/
theorem le_of_releaseOrder {order other : List Nat} (found : releaseOrder sources = .ok order)
    (alsoOrder : ExecutionOrder sources other) : DictionaryLE order other := by
  obtain ⟨further, released, least⟩ :=
    (Release.sound_start sources).exists_le sources.length alsoOrder
  simp only [releaseOrder] at found
  split at found
  · cases found
    rw [released]
    exact least
  · cases found

/-- Releases find an order of execution exactly if there are no circles. -/
theorem exists_releaseOrder_iff (inRange : InRange sources) :
    (∃ order, releaseOrder sources = .ok order) ↔ Acyclic sources := by
  constructor
  · rintro ⟨order, found⟩
    exact (executionOrder_of_releaseOrder found).acyclic
  · intro acyclic
    exact ⟨_, if_pos (Release.length_released_of_acyclic inRange acyclic)⟩

/-! ## The order of creation -/

/-- Among the lists of distinct numbers from some number on, the consecutive ones are least. -/
theorem eq_range'_of_le {numbers : List Nat} {start count : Nat} (nodup : numbers.Nodup)
    (atLeast : ∀ number ∈ numbers, start ≤ number) (complete : numbers.length = count)
    (least : DictionaryLE numbers (List.range' start count)) :
    numbers = List.range' start count := by
  induction numbers generalizing start count with
  | nil =>
      subst complete
      rfl
  | cons first rest inductionHypothesis =>
      subst complete
      rw [List.length_cons, List.range'_succ] at least ⊢
      obtain ⟨fresh, restNodup⟩ := List.nodup_cons.mp nodup
      rcases least with same | less
      · exact same
      · cases less with
        | rel smaller => exact absurd smaller (Nat.not_lt_of_le (atLeast first List.mem_cons_self))
        | cons restLess =>
            refine congrArg (first :: ·)
              (inductionHypothesis restNodup (fun number member => ?_) rfl (.inr restLess))
            have different : number ≠ first := fun same => fresh (same ▸ member)
            have further := atLeast number (List.mem_cons_of_mem _ member)
            omega

/-- Where every proc reads from earlier ones only, the order of creation is an order of
execution. -/
theorem executionOrder_range (earlier : ∀ reader source, ReadsFrom sources reader source →
    source < reader) : ExecutionOrder sources (List.range sources.length) := by
  refine ⟨.refl _, fun before position after split source reads => ?_⟩
  have here := congrArg (·[before.length]?) split
  simp only [List.getElem?_append_right (Nat.le_refl _), Nat.sub_self, List.getElem?_cons_zero]
    at here
  obtain ⟨below, rfl⟩ := List.getElem?_eq_some_iff.mp here
  rw [List.getElem_range] at reads
  have isEarlier := earlier _ source reads
  have there := congrArg (·[source]?) split
  rw [List.length_range] at below
  simp only [List.getElem?_append_left isEarlier,
    List.getElem?_range (Nat.lt_trans isEarlier below)] at there
  exact List.mem_of_getElem? there.symm

/-! ## Orders of procs -/

variable {P : Type}

/-- What each of some procs reads from, with one entry per connection. -/
def connectionSources (procs : List (Proc P)) : List (List Nat) :=
  procs.map fun proc => proc.head.inputs.map (·.sourceProc)

theorem orderProcs_eq_ok {procs : List (Proc P)} {order : List Nat} :
    Build.orderProcs procs = .ok order ↔ releaseOrder (connectionSources procs) = .ok order :=
  mapError_eq_ok

theorem inRange_connectionSources {procs : List (Proc P)}
    (inRange : ∀ proc ∈ procs, ∀ connection ∈ proc.head.inputs,
      connection.sourceProc < procs.length) : InRange (connectionSources procs) := by
  intro inputs listed source member
  obtain ⟨proc, isProc, rfl⟩ := List.mem_map.mp listed
  obtain ⟨connection, isInput, rfl⟩ := List.mem_map.mp member
  rw [connectionSources, List.length_map]
  exact inRange proc isProc connection isInput

/-- Procs whose connections come from procs that are there, with any number of connections
between two of them, can be ordered exactly if no proc reads from itself, directly or through
others. The order is a permutation of all positions in which every proc follows all of its
sources, and the least one of these in the order of a dictionary. So it is the order of creation
where no proc reads from a later one. No count falls below zero in the course of the releases,
also while the connections from one proc are taken off one by one. -/
theorem releases_find_least_order (procs : List (Proc P))
    (inRange : ∀ proc ∈ procs, ∀ connection ∈ proc.head.inputs,
      connection.sourceProc < procs.length) :
    let sources := connectionSources procs
    ((∃ order, Build.orderProcs procs = .ok order) ↔ Acyclic sources) ∧
      (∀ order, Build.orderProcs procs = .ok order → ExecutionOrder sources order ∧
        (∀ other, ExecutionOrder sources other → DictionaryLE order other) ∧
          ((∀ reader source, ReadsFrom sources reader source → source ≤ reader) →
            order = List.range procs.length)) ∧
        ∀ steps, let state := Release.run sources steps (.start sources)
          (∀ count ∈ state.waiting, 0 ≤ count) ∧ ∀ proc, state.next? = some proc →
            (state.serve sources proc).waiting =
                (Release.dependents sources proc).foldl Release.payOff state.waiting ∧
              ∀ paid, paid <+: Release.dependents sources proc →
                ∀ count ∈ paid.foldl Release.payOff state.waiting, 0 ≤ count := by
  intro sources
  have sourcesInRange : InRange sources := inRange_connectionSources inRange
  simp only [orderProcs_eq_ok]
  refine ⟨exists_releaseOrder_iff sourcesInRange, fun order found => ?_, fun steps => ?_⟩
  · have isOrder := executionOrder_of_releaseOrder found
    refine ⟨isOrder, fun other => le_of_releaseOrder found, fun notLater => ?_⟩
    have earlier : ∀ reader source, ReadsFrom sources reader source → source < reader := by
      intro reader source reads
      refine Nat.lt_of_le_of_ne (notLater reader source reads) ?_
      rintro rfl
      exact isOrder.acyclic source (.single reads)
    have atMost := le_of_releaseOrder found (executionOrder_range earlier)
    have complete : order.length = sources.length := by
      rw [isOrder.perm.length_eq, List.length_range]
    rw [List.range_eq_range'] at atMost ⊢
    rw [eq_range'_of_le isOrder.nodup (fun _ _ => Nat.zero_le _) complete atMost]
    exact congrArg (List.range' 0) (List.length_map _)
  · have sound := (Release.sound_start sources).run steps
    exact ⟨sound.waiting_nonneg, fun proc next =>
      ⟨sound.waiting_serve proc, fun paid => sound.payOff_nonneg next⟩⟩

/-- A proc that reads two variables of a later one, which reads a third. -/
def twofold : List (Proc Builtin) :=
  let constant := fun (label : String) (slot : Nat) (inputs : List Connection) =>
    Proc.native ⟨label, none, ⟨"number", [], [], .plain Builtin.numberClass, none⟩, inputs, none⟩
      slot
  [constant "sink" 0 [⟨0, 2, 0⟩, ⟨1, 2, 1⟩], constant "base" 1 [], constant "middle" 2 [⟨0, 1, 0⟩]]

/-- The only order of the three procs is found, and the twofold connection counts twice. -/
theorem twofold_released :
    Acyclic (connectionSources twofold) ∧ Build.orderProcs twofold = .ok [1, 2, 0] ∧
      (∀ other, ExecutionOrder (connectionSources twofold) other →
        DictionaryLE [1, 2, 0] other) ∧
        let state := Release.run (connectionSources twofold) 1 (.start (connectionSources twofold))
        state.waiting = [2, 0, 0] ∧
          ∀ count ∈ Release.payOff state.waiting 0, 0 ≤ count := by
  obtain ⟨exactly, least, counts⟩ := releases_find_least_order twofold (by decide)
  have found : Build.orderProcs twofold = .ok [1, 2, 0] := rfl
  refine ⟨exactly.mp ⟨_, found⟩, found, (least _ found).2.1, by decide, ?_⟩
  exact ((counts 1).2 2 (by decide)).2 [0] (by decide)

end SignalNet
