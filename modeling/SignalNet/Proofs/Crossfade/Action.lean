import SignalNet.Crossfade.Basic
import SignalNet.Proofs.Network.Operation

/-!
Contract: the life of a pair of networks.

A pair is advanced, faded, read and controlled, and the host exchanges audio with its
devices. Control goes to one of the two networks by its role. Every action has an answer, and
the journal of a run lists the actions with their answers.

Owns: actions on a pair and runs of them, and what each kind of action leaves of the two
lanes.
-/

set_option autoImplicit false

namespace SignalNet

variable {P : Type}

namespace Crossfade

/-- What can be done with a pair of networks. -/
inductive Action where
  | cycle
  | fade (milliseconds : Float)
  | control (role : Role) (operation : Operation)
  | read (role : Role) (label var : String) (channel : Nat) (type : ValueType)
  /-- The host reads or fills a common device between cycles. -/
  | exchange (position : Nat) (device : Device)

section

variable [Processor P]

/-- The pair that an action leaves behind, whether it succeeded or not. -/
def perform (pair : Crossfade P) : Action → Crossfade P
  | .cycle => pair.cycle.1
  | .fade milliseconds => pair.beginFade milliseconds
  | .control role operation => pair.setNetwork role ((pair.network role).perform operation)
  | .read _ _ _ _ _ => pair
  | .exchange position device => { pair with devices := pair.devices.set position device }

def answer (pair : Crossfade P) : Action → Answer
  | .cycle => .cycle pair.cycle.2
  | .fade _ => .done
  | .control role operation => (pair.network role).answer operation
  | .read role label var channel type => .read ((pair.network role).get label var channel type)
  | .exchange _ _ => .done

def performAll (pair : Crossfade P) (actions : List Action) : Crossfade P :=
  actions.foldl perform pair

/-- The actions of a run with their answers. -/
def journal (pair : Crossfade P) : List Action → List (Action × Answer)
  | [] => []
  | action :: rest => (action, pair.answer action) :: (pair.perform action).journal rest

end

/-! ## Lanes by role -/

section

variable (pair : Crossfade P) (lane : Lane P)

theorem lane_setLane_self (role : Role) : (pair.setLane role lane).lane role = lane := by
  cases role <;> cases current : pair.firstIsCurrent <;> simp [Crossfade.lane, setLane, current]

theorem lane_setLane_of_ne {role other : Role} (different : role ≠ other) :
    (pair.setLane role lane).lane other = pair.lane other := by
  cases role <;> cases other <;> cases current : pair.firstIsCurrent <;>
    simp [Crossfade.lane, setLane, current] at different ⊢

theorem firstIsCurrent_setLane (role : Role) :
    (pair.setLane role lane).firstIsCurrent = pair.firstIsCurrent := by
  unfold setLane
  split <;> rfl

theorem devices_setLane (role : Role) : (pair.setLane role lane).devices = pair.devices := by
  unfold setLane
  split <;> rfl

/-- Control of a network changes neither the state nor the ramp of any lane. -/
theorem lane_setNetwork (role other : Role) (network : Network P) :
    ((pair.setNetwork role network).lane other).state = (pair.lane other).state ∧
      ((pair.setNetwork role network).lane other).ramp = (pair.lane other).ramp ∧
      (((pair.setNetwork role network).lane other).network = (pair.lane other).network ∨
        other = role ∧ ((pair.setNetwork role network).lane other).network = network) := by
  rw [setNetwork]
  by_cases same : role = other
  · subst same
    rw [lane_setLane_self]
    exact ⟨rfl, rfl, .inr ⟨rfl, rfl⟩⟩
  · rw [lane_setLane_of_ne pair _ same]
    exact ⟨rfl, rfl, .inl rfl⟩

theorem lane_beginFade (milliseconds : Float) :
    let frames := pair.fadeFrames milliseconds
    (pair.beginFade milliseconds).lane .current =
        ⟨(pair.lane .next).network, .fadeIn, (pair.lane .next).ramp.aim 1 frames⟩ ∧
      (pair.beginFade milliseconds).lane .next =
        ⟨(pair.lane .current).network, .fadeOut, (pair.lane .current).ramp.aim 0 frames⟩ := by
  cases current : pair.firstIsCurrent <;> simp [beginFade, Crossfade.lane, setLane, current]

end

/-! ## Cycles -/

section

variable [Processor P] (pair : Crossfade P)

/-- A network is advanced by a cycle of it on prepared devices, or not at all. -/
theorem advance_cases (gains : Gains) (devices : List Device) (network : Network P) :
    (advance gains devices network).1 = network ∨
      (advance gains devices network).1 = (Network.cycle { network with
        devices := combineDevices (prepareDevice gains) devices network.devices }).1 := by
  unfold advance
  split
  · exact .inl rfl
  · dsimp only
    split <;> rename_i result
    · exact .inr (congrArg (·.1) result).symm
    · split <;> exact .inr (congrArg (·.1) result).symm

theorem timing_advance (gains : Gains) (devices : List Device) (network : Network P) :
    (advance gains devices network).1.timing = network.timing := by
  rcases advance_cases gains devices network with kept | cycled
  · rw [kept]
  · rw [cycled]
    exact Network.timing_perform _ .cycle

theorem cycleLane_of_inactive {lane : Lane P} (idle : lane.state = .inactive)
    (devices : List Device) : cycleLane devices lane = (lane, devices, .ok .proceed) := by
  rw [cycleLane, if_pos idle]

theorem firstIsCurrent_cycle : pair.cycle.1.firstIsCurrent = pair.firstIsCurrent := by
  unfold cycle
  split
  · rfl
  · split <;> rfl

theorem first_cycle :
    pair.cycle.1.first = (cycleLane (clearOutputs pair.devices) pair.first).1 := by
  unfold cycle
  split <;> rename_i firstResult
  · rw [firstResult]
  · split <;> rw [firstResult]

/-- The second lane is not advanced where the first one fails. -/
theorem second_cycle :
    pair.cycle.1.second = pair.second ∨
      ∃ devices, pair.cycle.1.second = (cycleLane devices pair.second).1 := by
  unfold cycle
  split
  · exact .inl rfl
  · split <;> rename_i secondResult
    · exact .inr ⟨_, (congrArg (·.1) secondResult).symm⟩
    · exact .inr ⟨_, (congrArg (·.1) secondResult).symm⟩

/-- A cycle leaves each lane as it was, or advances it on some devices. -/
theorem lane_cycle (role : Role) :
    pair.cycle.1.lane role = pair.lane role ∨
      ∃ devices, pair.cycle.1.lane role = (cycleLane devices (pair.lane role)).1 := by
  rw [Crossfade.lane, Crossfade.lane, firstIsCurrent_cycle]
  split
  · exact .inr ⟨_, pair.first_cycle⟩
  · exact pair.second_cycle

/-- A completed cycle has advanced both lanes. -/
theorem cycleLane_of_cycle {status : StepStatus} (completed : pair.cycle.2 = .ok status)
    (role : Role) :
    ∃ devices mixed reported,
      cycleLane devices (pair.lane role) = (pair.cycle.1.lane role, mixed, .ok reported) := by
  rw [Crossfade.lane, Crossfade.lane, firstIsCurrent_cycle]
  unfold cycle at completed ⊢
  cases first : cycleLane (clearOutputs pair.devices) pair.first with
  | mk lane rest =>
      obtain ⟨devices, fault | reported⟩ := rest
      · rw [first] at completed
        cases completed
      · cases second : cycleLane devices pair.second with
        | mk other last =>
            obtain ⟨mixed, fault | next⟩ := last
            · simp only [first, second] at completed
              cases completed
            · simp only [second]
              split
              · exact ⟨_, _, _, first⟩
              · exact ⟨_, _, _, second⟩

end

end Crossfade

end SignalNet
