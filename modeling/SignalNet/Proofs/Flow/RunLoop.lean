import Mathlib.Logic.Function.Iterate
import SignalNet.Crossfade.Basic
import SignalNet.Native.Builtin
import SignalNet.Proofs.Outcome

/-!
Contract: how far a run goes, and what it leaves.

A run is due to stop behind the first cycle that reports the end of the stream, or behind the
last one that its limit allows. It leaves what so many single cycles leave. The crux is
`runFrom_of_proceeds`: as long as cycles proceed, a run is a run from a later state with fewer
cycles to go, so only the cycle that stops it has to be looked at.

Owns: the states and reports of successive cycles (`stateAfter`, `reportAfter`), the report that
a run is due (`dueReport`), steps that count themselves (`counted`), and the law of runs
(`runs_stop_when_due`).
-/

set_option autoImplicit false

namespace SignalNet

section

variable {S : Type} (step : S → S × Except CycleError StepStatus)

/-! ## Successive cycles -/

/-- The state that a number of successive cycles leaves, whatever each of them reports. -/
def stateAfter (count : Nat) (state : S) : S := (fun state => (step state).1)^[count] state

/-- What the cycle behind a number of others reports. -/
def reportAfter (count : Nat) (state : S) : Except CycleError StepStatus :=
  (step (stateAfter step count state)).2

/-- Whether the cycle behind a number of others reports the end of the stream. -/
def endsAfter (state : S) (count : Nat) : Bool :=
  match reportAfter step count state with
  | .ok .endOfStream => true
  | .ok .proceed | .error _ => false

/-- Whether the first cycles all succeed. -/
def Succeeds (count : Nat) (state : S) : Prop :=
  ∀ k < count, ∃ status, reportAfter step k state = .ok status

/-- The report of a run of which no cycle fails: it is over with the first cycle that ends the
stream, or else with the last one within the limit. -/
def dueReport (limit : Nat) (state : S) : RunReport :=
  match (List.range limit).find? (endsAfter step state) with
  | some count => ⟨count + 1, .endOfStream⟩
  | none => ⟨limit, .cycleLimit⟩

/-- A step that counts how often it was taken. -/
def counted (state : S × Nat) : (S × Nat) × Except CycleError StepStatus :=
  (((step state.1).1, state.2 + 1), (step state.1).2)

/-- How many cycles a run within a limit carries out. -/
def performed (limit : Nat) (state : S) : Nat :=
  (runLoop (counted step) (some limit) (state, 0)).1.2

variable {step} {state : S} {limit : Nat}

theorem stateAfter_succ (count : Nat) (state : S) :
    stateAfter step (count + 1) state = (step (stateAfter step count state)).1 :=
  Function.iterate_succ_apply' _ count state

theorem endsAfter_eq_true {count : Nat} :
    endsAfter step state count = true ↔ reportAfter step count state = .ok .endOfStream := by
  unfold endsAfter
  split <;> simp_all

/-- What is due is the first end of the stream within the limit, or the limit. -/
theorem dueReport_cases (step : S → S × Except CycleError StepStatus) (limit : Nat) (state : S) :
    (∃ count < limit, dueReport step limit state = ⟨count + 1, .endOfStream⟩ ∧
        reportAfter step count state = .ok .endOfStream ∧
        ∀ k < count, reportAfter step k state ≠ .ok .endOfStream) ∨
      dueReport step limit state = ⟨limit, .cycleLimit⟩ ∧
        ∀ k < limit, reportAfter step k state ≠ .ok .endOfStream := by
  unfold dueReport
  cases found : (List.range limit).find? (endsAfter step state) with
  | some count =>
      obtain ⟨ends, within, least⟩ := List.find?_range_eq_some.mp found
      refine .inl ⟨count, List.mem_range.mp within, rfl, endsAfter_eq_true.mp ends, ?_⟩
      intro k before ended
      have notEnded := least k before
      rw [endsAfter_eq_true.mpr ended] at notEnded
      cases notEnded
  | none =>
      refine .inr ⟨rfl, fun k within ended => ?_⟩
      exact List.find?_eq_none.mp found k (List.mem_range.mpr within) (endsAfter_eq_true.mpr ended)

/-! ## The loop -/

/-- While cycles proceed, a run is the run from the state behind them, with so many cycles
done and so many fewer to go. -/
theorem runFrom_of_proceeds {count : Nat} (done : Nat) (within : count ≤ limit)
    (proceeds : ∀ k < count, reportAfter step k state = .ok .proceed) :
    runFrom step done limit state =
      runFrom step (done + count) (limit - count) (stateAfter step count state) := by
  induction count with
  | zero => rfl
  | succ count inductionHypothesis =>
      have before := inductionHypothesis (by omega) fun k earlier => proceeds k (by omega)
      obtain ⟨left, more⟩ : ∃ left, limit - count = left + 1 := ⟨limit - count - 1, by omega⟩
      have fewer : limit - (count + 1) = left := by omega
      have last : (step (stateAfter step count state)).2 = .ok .proceed :=
        proceeds count (Nat.lt_succ_self count)
      rw [before, more, fewer, stateAfter_succ, runFrom]
      split <;> rename_i result
      · rw [result] at last
        cases last
      · rw [result] at last
        cases last
      · rw [result]
        rfl

/-- A run stops with the first cycle that does not proceed. -/
theorem runFrom_of_stops {count : Nat} {status : Except CycleError StepStatus} (done : Nat)
    (within : count < limit)
    (proceeds : ∀ k < count, reportAfter step k state = .ok .proceed)
    (last : reportAfter step count state = status) (stops : status ≠ .ok .proceed) :
    runFrom step done limit state =
      (stateAfter step (count + 1) state,
        status.map fun _ => ⟨done + count + 1, .endOfStream⟩) := by
  obtain ⟨left, more⟩ : ∃ left, limit - count = left + 1 := ⟨limit - count - 1, by omega⟩
  rw [runFrom_of_proceeds done (Nat.le_of_lt within) proceeds, more, stateAfter_succ, runFrom]
  rw [reportAfter] at last
  subst last
  split <;> rename_i result
  · rw [result]
    rfl
  · rw [result]
    rfl
  · rw [result] at stops
    exact absurd rfl stops

/-- Up to what is due, a cycle that succeeds and is not the last one proceeds. -/
theorem proceeds_of_succeeds {count : Nat} (succeeds : Succeeds step count state)
    (notEnded : ∀ k < count, reportAfter step k state ≠ .ok .endOfStream) :
    ∀ k < count, reportAfter step k state = .ok .proceed := by
  intro k earlier
  obtain ⟨status, reported⟩ := succeeds k earlier
  cases status with
  | proceed => exact reported
  | endOfStream => exact absurd reported (notEnded k earlier)

/-- No cycle before the last one that is due ends the stream. -/
theorem not_ended_of_lt_due {count : Nat}
    (within : count < (dueReport step limit state).cycles) :
    count < limit ∧ ∀ k < count, reportAfter step k state ≠ .ok .endOfStream := by
  rcases dueReport_cases step limit state with ⟨last, lastWithin, due, -, least⟩ | ⟨due, never⟩
  · rw [due] at within
    have earlier : count ≤ last := Nat.le_of_lt_succ within
    exact ⟨by omega, fun k before => least k (by omega)⟩
  · rw [due] at within
    exact ⟨within, fun k before => never k (Nat.lt_trans before within)⟩

theorem runLoop_of_succeeds (succeeds : Succeeds step (dueReport step limit state).cycles state) :
    runLoop step (some limit) state =
      (stateAfter step (dueReport step limit state).cycles state,
        .ok (dueReport step limit state)) := by
  rw [runLoop, Option.getD_some]
  rcases dueReport_cases step limit state with ⟨count, within, due, ended, least⟩ | ⟨due, never⟩
  · rw [due] at succeeds ⊢
    have before : Succeeds step count state := fun k earlier =>
      succeeds k (Nat.lt_succ_of_lt earlier)
    have proceeds := proceeds_of_succeeds before least
    rw [runFrom_of_stops 0 within proceeds ended (by nofun), Nat.zero_add]
    rfl
  · rw [due] at succeeds ⊢
    have proceeds := proceeds_of_succeeds succeeds never
    rw [runFrom_of_proceeds 0 (Nat.le_refl limit) proceeds, Nat.sub_self, Nat.zero_add]
    rfl

theorem runLoop_of_fails {count : Nat} {fault : CycleError}
    (within : count < (dueReport step limit state).cycles)
    (succeeds : Succeeds step count state)
    (fails : reportAfter step count state = .error fault) :
    runLoop step (some limit) state = (stateAfter step (count + 1) state, .error fault) := by
  obtain ⟨withinLimit, notEnded⟩ := not_ended_of_lt_due within
  rw [runLoop, Option.getD_some]
  exact runFrom_of_stops 0 withinLimit (proceeds_of_succeeds succeeds notEnded) fails (by nofun)

/-! ## Counting -/

theorem stateAfter_counted (count : Nat) (state : S) (before : Nat) :
    stateAfter (counted step) count (state, before) =
      (stateAfter step count state, before + count) := by
  induction count with
  | zero => rfl
  | succ count inductionHypothesis =>
      rw [stateAfter_succ, inductionHypothesis, stateAfter_succ]
      rfl

theorem reportAfter_counted (count : Nat) (state : S) (before : Nat) :
    reportAfter (counted step) count (state, before) = reportAfter step count state := by
  rw [reportAfter, stateAfter_counted]
  rfl

theorem dueReport_counted (limit : Nat) (state : S) (before : Nat) :
    dueReport (counted step) limit (state, before) = dueReport step limit state := by
  have sameEnds : endsAfter (counted step) (state, before) = endsAfter step state := by
    funext count
    rw [endsAfter, reportAfter_counted]
    rfl
  rw [dueReport, sameEnds]
  rfl

theorem performed_of_succeeds
    (succeeds : Succeeds step (dueReport step limit state).cycles state) :
    performed step limit state = (dueReport step limit state).cycles := by
  have counting : Succeeds (counted step) (dueReport (counted step) limit (state, 0)).cycles
      (state, 0) := by
    rw [dueReport_counted]
    intro k earlier
    rw [reportAfter_counted]
    exact succeeds k earlier
  rw [performed, runLoop_of_succeeds counting, stateAfter_counted, dueReport_counted,
    Nat.zero_add]

theorem performed_of_fails {count : Nat} {fault : CycleError}
    (within : count < (dueReport step limit state).cycles)
    (succeeds : Succeeds step count state)
    (fails : reportAfter step count state = .error fault) :
    performed step limit state = count + 1 := by
  have counting : Succeeds (counted step) count (state, 0) := by
    intro k earlier
    rw [reportAfter_counted]
    exact succeeds k earlier
  have withinCounted : count < (dueReport (counted step) limit (state, 0)).cycles := by
    rw [dueReport_counted]
    exact within
  have failsCounted : reportAfter (counted step) count (state, 0) = .error fault := by
    rw [reportAfter_counted]
    exact fails
  rw [performed, runLoop_of_fails withinCounted counting failsCounted, stateAfter_counted,
    Nat.zero_add]

/-! ## The law of runs -/

/-- Where not all cycles succeed, one is the first to fail. -/
theorem exists_first_failure {count : Nat} (fails : ¬ Succeeds step count state) :
    ∃ first < count, ∃ fault, Succeeds step first state ∧
      reportAfter step first state = .error fault := by
  induction count with
  | zero => exact absurd (fun k earlier => absurd earlier (Nat.not_lt_zero k)) fails
  | succ count inductionHypothesis =>
      by_cases before : Succeeds step count state
      · cases last : reportAfter step count state with
        | error fault => exact ⟨count, Nat.lt_succ_self count, fault, before, last⟩
        | ok status =>
            refine absurd (fun k earlier => ?_) fails
            rcases Nat.lt_succ_iff_lt_or_eq.mp earlier with below | rfl
            · exact before k below
            · exact ⟨status, last⟩
      · obtain ⟨first, earlier, failure⟩ := inductionHypothesis before
        exact ⟨first, Nat.lt_succ_of_lt earlier, failure⟩

/-- How a run within a limit comes out. If the cycles that are due all succeed, it carries out
these and leaves what they leave. Otherwise it carries out the first of them that fails and
those before it, and gives the fault of that one. -/
structure StopsWhenDue (step : S → S × Except CycleError StepStatus) (limit : Nat) (state : S)
    (outcome : S × Except CycleError RunReport) : Prop where
  completed : Succeeds step (dueReport step limit state).cycles state →
    outcome = (stateAfter step (dueReport step limit state).cycles state,
        .ok (dueReport step limit state)) ∧
      performed step limit state = (dueReport step limit state).cycles
  failed : ¬ Succeeds step (dueReport step limit state).cycles state →
    ∃ count < (dueReport step limit state).cycles, ∃ fault,
      Succeeds step count state ∧ reportAfter step count state = .error fault ∧
        outcome = (stateAfter step (count + 1) state, .error fault) ∧
        performed step limit state = count + 1

theorem stopsWhenDue_runLoop (step : S → S × Except CycleError StepStatus) (limit : Nat)
    (state : S) : StopsWhenDue step limit state (runLoop step (some limit) state) where
  completed succeeds := ⟨runLoop_of_succeeds succeeds, performed_of_succeeds succeeds⟩
  failed fails := by
    obtain ⟨count, within, fault, before, failure⟩ := exists_first_failure fails
    exact ⟨count, within, fault, before, failure, runLoop_of_fails within before failure,
      performed_of_fails within before failure⟩

end

variable {P : Type} [Processor P]

namespace Network

theorem cycleIndex_cycle (network : Network P) :
    network.cycle.1.cycleIndex =
      match network.cycle.2 with
      | .ok _ => network.cycleIndex + 1
      | .error _ => network.cycleIndex := by
  unfold cycle
  split <;> rfl

/-- Every cycle that is completed counts. -/
theorem cycleIndex_stateAfter {network : Network P} {count : Nat}
    (succeeds : Succeeds Network.cycle count network) :
    (stateAfter Network.cycle count network).cycleIndex = network.cycleIndex + count := by
  induction count with
  | zero => rfl
  | succ count inductionHypothesis =>
      obtain ⟨status, reported⟩ := succeeds count (Nat.lt_succ_self count)
      rw [reportAfter] at reported
      rw [stateAfter_succ, cycleIndex_cycle, reported]
      exact congrArg (· + 1)
        (inductionHypothesis fun k earlier => succeeds k (Nat.lt_succ_of_lt earlier))

end Network

/-- A run within a limit, of a network as of a pair of networks: it is due to stop with the
first cycle that reports the end of the stream, also where the limit is reached with it, or
else with the last cycle of the limit. If these cycles succeed, the run carries out exactly
them, and reports their number and the reason; what it leaves is what so many single cycles
leave, and the cycle count of a network has grown by their number. If one of them fails, the
run ends with the first that does and gives its fault, and only the cycles before it count. -/
theorem runs_stop_when_due (limit : Nat) :
    (∀ network : Network P,
      StopsWhenDue Network.cycle limit network (network.run (some limit)) ∧
        (∀ report, (network.run (some limit)).2 = .ok report →
          (network.run (some limit)).1.cycleIndex = network.cycleIndex + report.cycles) ∧
        ∀ fault, (network.run (some limit)).2 = .error fault →
          (network.run (some limit)).1.cycleIndex + 1 =
            network.cycleIndex + performed Network.cycle limit network) ∧
      ∀ pair : Crossfade P,
        StopsWhenDue Crossfade.cycle limit pair (pair.run (some limit)) := by
  refine ⟨fun network => ?_, fun pair => stopsWhenDue_runLoop Crossfade.cycle limit pair⟩
  have comesOut : StopsWhenDue Network.cycle limit network (network.run (some limit)) :=
    stopsWhenDue_runLoop Network.cycle limit network
  refine ⟨comesOut, ?_⟩
  by_cases succeeds : Succeeds Network.cycle (dueReport Network.cycle limit network).cycles network
  · obtain ⟨outcome, -⟩ := comesOut.completed succeeds
    rw [outcome]
    refine ⟨?_, nofun⟩
    rintro report ⟨⟩
    exact Network.cycleIndex_stateAfter succeeds
  · obtain ⟨count, -, fault, before, failure, outcome, counted⟩ := comesOut.failed succeeds
    rw [outcome, counted]
    refine ⟨nofun, fun _ _ => ?_⟩
    rw [reportAfter] at failure
    have kept : (stateAfter Network.cycle (count + 1) network).cycleIndex =
        (stateAfter Network.cycle count network).cycleIndex := by
      rw [stateAfter_succ, Network.cycleIndex_cycle, failure]
    rw [kept, Network.cycleIndex_stateAfter before]
    rfl

namespace Tally

/-- A counter of whole numbers. -/
def classes : ClassSet Builtin :=
  ⟨[⟨"counter",
      [⟨"inc", "", some .double, .empty, some (.float 1), false, none⟩,
        ⟨"limit", "", some .double, .empty, some (.float 0), false, none⟩,
        ⟨"out", "", some .int, .empty, none, false, none⟩],
      [], .plain Builtin.counterClass, none⟩]⟩

def template (increment limit : Float) : Template :=
  ⟨[⟨"tally", "counter", ⟨[("inc", .float increment), ("limit", .float limit)]⟩, [], none, none,
    none⟩], []⟩

end Tally

/-- A counter that ends the stream with the last cycle of the limit, and a pair of networks
whose counters outgrow their type in the second cycle. -/
theorem tally_stops_when_due :
    (∃ network : Network Builtin,
      Network.build Tally.classes (Tally.template 1 2) .standard [] = .ok network ∧
        network.run (some 2) = (stateAfter Network.cycle 2 network, .ok ⟨2, .endOfStream⟩) ∧
        (network.run (some 2)).1.cycleIndex = network.cycleIndex + 2) ∧
      ∃ network : Network Builtin,
        Network.build Tally.classes (Tally.template 1500000000 0) .standard [] = .ok network ∧
          let pair := Crossfade.new network network []
          ∃ fault, pair.run (some 3) = (stateAfter Crossfade.cycle 2 pair, .error fault) ∧
            performed Crossfade.cycle 3 pair = 2 := by
  constructor
  · have reports : (Network.build Tally.classes (Tally.template 1 2) .standard []).map
        (fun network => (dueReport Network.cycle 2 network,
          [0, 1].map (reportAfter Network.cycle · network))) =
        .ok (⟨2, .endOfStream⟩, [.ok .proceed, .ok .endOfStream]) := by decide +kernel
    obtain ⟨network, built, reported⟩ := map_eq_ok.mp reports
    obtain ⟨due, first, second⟩ : _ ∧ _ ∧ _ := by simpa using reported
    obtain ⟨law, counts, -⟩ := (runs_stop_when_due 2).1 network
    have succeeds : Succeeds Network.cycle 2 network := fun
      | 0, _ => ⟨_, first⟩
      | 1, _ => ⟨_, second⟩
    have outcome := law.completed
    rw [due] at outcome
    obtain ⟨result, -⟩ := outcome succeeds
    exact ⟨network, built, result, counts _ (congrArg Prod.snd result)⟩
  · have reports : (Network.build Tally.classes (Tally.template 1500000000 0) .standard []).map
        (fun network => (dueReport Crossfade.cycle 3 (.new network network []),
          [0, 1].map fun count =>
            (reportAfter Crossfade.cycle count (.new network network [])).toOption)) =
        .ok (⟨3, .cycleLimit⟩, [some .proceed, none]) := by decide +kernel
    obtain ⟨network, built, reported⟩ := map_eq_ok.mp reports
    obtain ⟨due, first, second⟩ : _ ∧ _ ∧ _ := by simpa using reported
    refine ⟨network, built, ?_⟩
    have law := (runs_stop_when_due 3).2 (Crossfade.new network network [])
    have failing : ¬ ∃ status,
        reportAfter Crossfade.cycle 1 (.new network network []) = .ok status := by
      rintro ⟨status, reported⟩
      rw [reported] at second
      cases second
    have outcome := law.failed
    rw [due] at outcome
    obtain ⟨count, within, fault, before, failure, result, counted⟩ :=
      outcome fun succeeds => failing (succeeds 1 (by decide))
    obtain rfl : count = 1 := by
      have notZero : count ≠ 0 := by
        rintro rfl
        rw [failure] at first
        cases first
      have notBehind : ¬ 1 < count := fun behind => failing (before 1 behind)
      omega
    exact ⟨fault, result, counted⟩

end SignalNet
