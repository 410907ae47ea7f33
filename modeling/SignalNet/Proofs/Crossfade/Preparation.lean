import SignalNet.Proofs.Crossfade.Action
import SignalNet.Proofs.Network.Footprint
import SignalNet.Proofs.Network.TypeSoundness

/-!
Contract: a network can be prepared while the other one is heard.

While the next lane is idle, a cycle skips it: it neither hears the common devices nor is
mixed into them. Control of its network changes that network and nothing else. So two pairs
that differ in that network only give the same answers and stay the same in everything else,
up to the next fade.

Owns: what two pairs share that sound alike (`SoundsLike`), that actions keep it
(`SoundsLike.perform`), and the law of preparation (`preparation_is_inaudible`).
-/

set_option autoImplicit false

namespace SignalNet.Crossfade

variable {P : Type}

/-- Two pairs differ at most in the network that is being prepared. -/
structure SoundsLike (left right : Crossfade P) : Prop where
  roles : left.firstIsCurrent = right.firstIsCurrent
  devices : left.devices = right.devices
  current : left.lane .current = right.lane .current
  state : left.state .next = right.state .next
  ramp : (left.lane .next).ramp = (right.lane .next).ramp

namespace SoundsLike

variable {left middle right : Crossfade P}

theorem refl (pair : Crossfade P) : pair.SoundsLike pair := ⟨rfl, rfl, rfl, rfl, rfl⟩

theorem trans (first : left.SoundsLike middle) (second : middle.SoundsLike right) :
    left.SoundsLike right :=
  ⟨first.roles.trans second.roles, first.devices.trans second.devices,
    first.current.trans second.current, first.state.trans second.state,
    first.ramp.trans second.ramp⟩

end SoundsLike

/-- An action addresses the network that is being prepared. -/
def Action.addressesNext : Action → Bool
  | .control .next _ => true
  | .read .next _ _ _ _ => true
  | _ => false

/-! ## Control -/

section

variable {left right : Crossfade P}

/-- A network that is being prepared can be replaced by any other. -/
theorem soundsLike_setNetwork_next (pair : Crossfade P) (network : Network P) :
    (pair.setNetwork .next network).SoundsLike pair where
  roles := pair.firstIsCurrent_setLane _ .next
  devices := pair.devices_setLane _ .next
  current := pair.lane_setLane_of_ne _ Role.noConfusion
  state := (pair.lane_setNetwork .next .next network).1
  ramp := (pair.lane_setNetwork .next .next network).2.1

theorem SoundsLike.setNetwork_current (alike : left.SoundsLike right) (network : Network P) :
    (left.setNetwork .current network).SoundsLike (right.setNetwork .current network) where
  roles := by
    rw [setNetwork, setNetwork, firstIsCurrent_setLane, firstIsCurrent_setLane, alike.roles]
  devices := by rw [setNetwork, setNetwork, devices_setLane, devices_setLane, alike.devices]
  current := by
    rw [setNetwork, setNetwork, lane_setLane_self, lane_setLane_self, alike.current]
  state := (left.lane_setNetwork .current .next network).1.trans
    (alike.state.trans (right.lane_setNetwork .current .next network).1.symm)
  ramp := (left.lane_setNetwork .current .next network).2.1.trans
    (alike.ramp.trans (right.lane_setNetwork .current .next network).2.1.symm)

end

/-! ## Cycles -/

section

variable [Processor P] {pair left right : Crossfade P}

/-- While the next lane is idle, a cycle is the cycle of the current one. -/
theorem cycle_of_idle (idle : pair.state .next = .inactive) :
    let advanced := cycleLane (clearOutputs pair.devices) (pair.lane .current)
    pair.cycle.1.lane .current = advanced.1 ∧ pair.cycle.1.lane .next = pair.lane .next ∧
      pair.cycle.1.devices = advanced.2.1 ∧ pair.cycle.2 = advanced.2.2 := by
  rcases pair with ⟨first, second, firstIsCurrent, devices⟩
  cases firstIsCurrent with
  | true =>
      have isIdle : second.state = .inactive := idle
      have isCurrent : lane ⟨first, second, true, devices⟩ .current = first := rfl
      rw [isCurrent]
      rcases advanced : cycleLane (clearOutputs devices) first with ⟨lane, mixed, fault | status⟩
      · simp only [cycle, advanced]
        exact ⟨rfl, rfl, trivial, trivial⟩
      · simp only [cycle, advanced, cycleLane_of_inactive isIdle, StepStatus.or_proceed]
        exact ⟨rfl, rfl, trivial, trivial⟩
  | false =>
      have isIdle : first.state = .inactive := idle
      have isCurrent : lane ⟨first, second, false, devices⟩ .current = second := rfl
      rw [isCurrent]
      rcases advanced : cycleLane (clearOutputs devices) second with ⟨lane, mixed, fault | status⟩
      · simp only [cycle, advanced, cycleLane_of_inactive isIdle]
        exact ⟨rfl, rfl, trivial, trivial⟩
      · simp only [cycle, advanced, cycleLane_of_inactive isIdle, StepStatus.proceed_or]
        exact ⟨rfl, rfl, trivial, trivial⟩

theorem SoundsLike.cycle (alike : left.SoundsLike right) (idle : left.state .next = .inactive) :
    left.cycle.1.SoundsLike right.cycle.1 ∧ left.cycle.2 = right.cycle.2 := by
  obtain ⟨leftCurrent, leftNext, leftDevices, leftOutcome⟩ := cycle_of_idle idle
  obtain ⟨rightCurrent, rightNext, rightDevices, rightOutcome⟩ :=
    cycle_of_idle (alike.state.symm.trans idle)
  rw [alike.devices, alike.current] at leftCurrent leftDevices leftOutcome
  refine ⟨⟨?_, leftDevices.trans rightDevices.symm, leftCurrent.trans rightCurrent.symm, ?_, ?_⟩,
    leftOutcome.trans rightOutcome.symm⟩
  · rw [firstIsCurrent_cycle, firstIsCurrent_cycle, alike.roles]
  · exact (congrArg Lane.state leftNext).trans
      (alike.state.trans (congrArg Lane.state rightNext).symm)
  · rw [leftNext, rightNext, alike.ramp]

/-! ## Runs -/

/-- Only a fade wakes an idle lane. -/
theorem idle_perform (idle : pair.state .next = .inactive) {action : Action}
    (noFade : ∀ milliseconds, action ≠ .fade milliseconds) :
    (pair.perform action).state .next = .inactive := by
  cases action with
  | cycle => exact (congrArg Lane.state (cycle_of_idle idle).2.1).trans idle
  | fade milliseconds => exact absurd rfl (noFade milliseconds)
  | control role operation =>
      cases role with
      | current =>
          exact (pair.lane_setNetwork .current .next _).1.trans idle
      | next => exact (soundsLike_setNetwork_next pair _).state.trans idle
  | read role label var channel type => exact idle
  | exchange position device => exact idle

/-- What does not address the next network has the same answer in pairs that sound alike, and
leaves them so. -/
theorem SoundsLike.perform (alike : left.SoundsLike right) (idle : left.state .next = .inactive)
    {action : Action} (noFade : ∀ milliseconds, action ≠ .fade milliseconds)
    (heard : action.addressesNext = false) :
    (left.perform action).SoundsLike (right.perform action) ∧
      left.answer action = right.answer action := by
  have sameNetwork : left.network .current = right.network .current :=
    congrArg Lane.network alike.current
  cases action with
  | cycle =>
      obtain ⟨still, same⟩ := alike.cycle idle
      exact ⟨still, congrArg Answer.cycle same⟩
  | fade milliseconds => exact absurd rfl (noFade milliseconds)
  | control role operation =>
      cases role with
      | current =>
          refine ⟨?_, congrArg (·.answer operation) sameNetwork⟩
          rw [Crossfade.perform, Crossfade.perform, sameNetwork]
          exact alike.setNetwork_current _
      | next => cases heard
  | read role label var channel type =>
      cases role with
      | current =>
          exact ⟨alike, congrArg
            (fun network : Network P => Answer.read (network.get label var channel type))
            sameNetwork⟩
      | next => cases heard
  | exchange position device =>
      refine ⟨⟨alike.roles, ?_, alike.current, alike.state, alike.ramp⟩, rfl⟩
      exact congrArg (·.set position device) alike.devices

/-- Preparation of the next network makes no difference to what sounds alike. -/
theorem soundsLike_perform_of_addressesNext {action : Action}
    (preparing : action.addressesNext = true) (pair : Crossfade P) :
    (pair.perform action).SoundsLike pair := by
  cases action with
  | control role operation =>
      cases role with
      | current => cases preparing
      | next => exact soundsLike_setNetwork_next pair _
  | read role label var channel type => exact .refl pair
  | cycle => cases preparing
  | fade milliseconds => cases preparing
  | exchange position device => cases preparing

/-- Actions that address the next network can be left out of the run of one of two pairs that
sound alike. -/
theorem SoundsLike.performAll (alike : left.SoundsLike right)
    (idle : left.state .next = .inactive) {actions : List Action}
    (noFade : ∀ milliseconds, .fade milliseconds ∉ actions) :
    let heard := actions.filter fun action => !action.addressesNext
    (left.performAll actions).SoundsLike (right.performAll heard) ∧
      (left.journal actions).filter (fun entry => !entry.1.addressesNext) =
        right.journal heard := by
  induction actions generalizing left right with
  | nil => exact ⟨alike, rfl⟩
  | cons action rest inductionHypothesis =>
      have isNoFade : ∀ milliseconds, action ≠ .fade milliseconds :=
        fun milliseconds same => noFade milliseconds (same ▸ List.mem_cons_self)
      have restNoFade : ∀ milliseconds, .fade milliseconds ∉ rest :=
        fun milliseconds later => noFade milliseconds (List.mem_cons_of_mem _ later)
      have stillIdle := idle_perform idle isNoFade
      rw [Crossfade.performAll, List.foldl_cons, journal]
      cases preparing : action.addressesNext with
      | true =>
          rw [List.filter_cons_of_neg (by simp [preparing]),
            List.filter_cons_of_neg (by simp [preparing])]
          have still := (soundsLike_perform_of_addressesNext preparing left).trans alike
          exact inductionHypothesis still stillIdle restNoFade
      | false =>
          rw [List.filter_cons_of_pos (by simp [preparing]),
            List.filter_cons_of_pos (by simp [preparing])]
          obtain ⟨still, same⟩ := alike.perform idle isNoFade preparing
          obtain ⟨last, journals⟩ := inductionHypothesis still stillIdle restNoFade
          refine ⟨last, ?_⟩
          rw [journals, journal, same]

/-- In every state of a pair in which the next network is idle, whatever is done up to the next
fade: operations that address the next network, successful or not, can be left out. Everything
else has the same answers in the same order, and the common devices, the whole current lane,
and the fades of both lanes are the same afterwards. -/
theorem preparation_is_inaudible (pair : Crossfade P) (idle : pair.state .next = .inactive)
    (actions : List Action) (noFade : ∀ milliseconds, .fade milliseconds ∉ actions) :
    let heard := actions.filter fun action => !action.addressesNext
    (pair.journal actions).filter (fun entry => !entry.1.addressesNext) = pair.journal heard ∧
      (pair.performAll actions).SoundsLike (pair.performAll heard) := by
  intro heard
  obtain ⟨alike, journals⟩ := (SoundsLike.refl pair).performAll idle noFade
  exact ⟨journals, alike⟩

end

/-- After a fade has exchanged the roles, a write and an unknown preset for the network that
went out make no difference to the other one. -/
theorem voices_prepared :
    ∃ network : Network Builtin,
      Network.build Voices.classes Voices.template .standard [] = .ok network ∧
        let pair := (new network network []).performAll [.fade 0, .cycle]
        let write (role : Role) := Action.control role (.set "base" "value" 0 (.double 2))
        pair.state .next = .inactive ∧
          (pair.journal [write .next, .cycle, .control .next (.preset "none" none),
                write .current, .cycle]).filter (fun entry => !entry.1.addressesNext) =
              pair.journal [.cycle, write .current, .cycle] ∧
            (pair.performAll [write .next, .cycle, .control .next (.preset "none" none),
                write .current, .cycle]).SoundsLike
              (pair.performAll [.cycle, write .current, .cycle]) := by
  have built : Network.build Voices.classes Voices.template .standard [] = .ok _ := rfl
  refine ⟨_, built, by decide +kernel, ?_⟩
  refine preparation_is_inaudible _ (by decide +kernel) _ fun milliseconds member => ?_
  simp only [List.mem_cons, reduceCtorEq, List.not_mem_nil, or_self] at member

end SignalNet.Crossfade
