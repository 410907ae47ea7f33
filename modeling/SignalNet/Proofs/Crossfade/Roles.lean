import SignalNet.Proofs.Crossfade.Action
import SignalNet.Proofs.Network.TypeSoundness

/-!
Contract: what the two lanes of a pair are doing at any time.

The current lane is heard or comes in, and the other one is idle or goes out; each role has a
target, and a lane whose fade is over stands at the target of its role. That holds after any
actions, whatever fails on the way: a cycle moves the ramp of a lane before it advances the
network, and settles the lane only afterwards, so a lane that fails in between is left with a
ramp that may have arrived, which nothing here forbids.

Where both networks have cycles of one length and no cycle fails, the two ramps keep step, so
that both fades end in the same cycle.

Owns: `Lane.Fits`, what a cycle does to the ramp and the state of a lane, and the law of roles
(`roles_hold`).
-/

set_option autoImplicit false

namespace SignalNet

/-! ## Ramps -/

namespace Ramp

/-- A ramp without frames left is at its target. -/
def Arrives (ramp : Ramp) : Prop := ramp.remaining = 0 → ramp.gain = ramp.target

theorem arrives_still (gain : Float) : (still gain).Arrives := fun _ => rfl

theorem target_aim (ramp : Ramp) (target : Float) (frames : Nat) :
    (ramp.aim target frames).target = target := by
  unfold aim
  split <;> rfl

theorem remaining_aim (ramp : Ramp) (target : Float) (frames : Nat) :
    (ramp.aim target frames).remaining = frames := by
  unfold aim
  split
  · rename_i none
    exact none.symm
  · rfl

theorem arrives_aim (ramp : Ramp) (target : Float) (frames : Nat) :
    (ramp.aim target frames).Arrives := by
  unfold aim
  split
  · exact fun _ => rfl
  · rename_i some
    exact fun none => absurd none some

theorem target_advance (ramp : Ramp) : ramp.advance.target = ramp.target := by
  unfold advance
  split <;> rfl

theorem remaining_advance (ramp : Ramp) : ramp.advance.remaining = ramp.remaining - 1 := by
  unfold advance
  split <;> rename_i left
  · rw [left]
  · rw [left]
  · rw [left, Nat.add_sub_cancel (n := _) (m := 1)]

theorem Arrives.advance {ramp : Ramp} (arrives : ramp.Arrives) : ramp.advance.Arrives := by
  unfold Ramp.advance
  split
  · exact arrives
  · exact fun _ => rfl
  · exact fun none => absurd none (Nat.succ_ne_zero _)

theorem isSettled_iff (ramp : Ramp) : ramp.isSettled = true ↔ ramp.remaining = 0 :=
  beq_iff_eq

variable (frames : Nat)

theorem target_gains (ramp : Ramp) : (gains frames ramp).2.target = ramp.target := by
  induction frames generalizing ramp with
  | zero => rfl
  | succ frames inductionHypothesis =>
      exact (inductionHypothesis ramp.advance).trans ramp.target_advance

theorem remaining_gains (ramp : Ramp) :
    (gains frames ramp).2.remaining = ramp.remaining - frames := by
  induction frames generalizing ramp with
  | zero => rfl
  | succ frames inductionHypothesis =>
      rw [gains, inductionHypothesis, remaining_advance, Nat.sub_sub, Nat.add_comm]

theorem Arrives.gains {ramp : Ramp} (arrives : ramp.Arrives) :
    (Ramp.gains frames ramp).2.Arrives := by
  induction frames generalizing ramp with
  | zero => exact arrives
  | succ frames inductionHypothesis => exact inductionHypothesis arrives.advance

/-- A ramp that has no frames left stays where it is. -/
theorem gains_of_settled {ramp : Ramp} (settled : ramp.remaining = 0) :
    gains frames ramp = (List.replicate frames ramp.gain, ramp) := by
  have stays : ramp.advance = ramp := by
    unfold advance
    rw [settled]
  induction frames with
  | zero => rfl
  | succ frames inductionHypothesis =>
      rw [gains, stays, inductionHypothesis, List.replicate_succ]

end Ramp

/-! ## Roles -/

namespace Role

/-- The gain that a lane goes to in its role. -/
def target : Role → Float
  | current => 1
  | next => 0

/-- The state of a lane that is not in a fade. -/
def resting : Role → FadeState
  | current => .active
  | next => .inactive

/-- The state of a lane that is in a fade. -/
def fading : Role → FadeState
  | current => .fadeIn
  | next => .fadeOut

theorem settled_resting (role : Role) : role.resting.settled = role.resting := by
  cases role <;> rfl

theorem settled_fading (role : Role) : role.fading.settled = role.resting := by
  cases role <;> rfl

end Role

variable {P : Type}

/-- A lane does what its role asks for. -/
structure Lane.Fits (lane : Lane P) (role : Role) : Prop where
  state : lane.state = role.resting ∨ lane.state = role.fading
  target : lane.ramp.target = role.target
  arrives : lane.ramp.Arrives
  settled : lane.state = role.resting → lane.ramp.remaining = 0

namespace Lane.Fits

variable {lane other : Lane P} {role : Role}

theorem congr (fits : lane.Fits role) (sameState : other.state = lane.state)
    (sameRamp : other.ramp = lane.ramp) : other.Fits role where
  state := sameState ▸ fits.state
  target := sameRamp ▸ fits.target
  arrives := sameRamp ▸ fits.arrives
  settled := sameRamp ▸ sameState ▸ fits.settled

/-- A lane that is heard or idle is so because of its role. -/
theorem rests (fits : lane.Fits role) (still : lane.state = .active ∨ lane.state = .inactive) :
    lane.state = role.resting := by
  rcases fits.state with resting | fading
  · exact resting
  · rcases still with active | inactive
    · cases role <;> cases active.symm.trans fading
    · cases role <;> cases inactive.symm.trans fading

theorem current_of_active (fits : lane.Fits role) (active : lane.state = .active) :
    role = .current := by
  cases role with
  | current => rfl
  | next => rcases fits.state with state | state <;> cases active.symm.trans state

end Lane.Fits

namespace Crossfade

/-! ## Cycles -/

section

variable [Processor P] {lane after : Lane P} {role : Role} {devices mixed : List Device}

theorem timing_cycleLane (devices : List Device) (lane : Lane P) :
    (cycleLane devices lane).1.network.timing = lane.network.timing := by
  unfold cycleLane
  split
  · rfl
  · dsimp only
    split <;> rename_i result
    · exact (congrArg (·.1.timing) result).symm.trans (timing_advance _ _ _)
    · exact (congrArg (·.1.timing) result).symm.trans (timing_advance _ _ _)

/-- A lane that is not idle moves its ramp by the frames of a cycle, and settles at most. -/
theorem cycleLane_fst (devices : List Device) (active : lane.state ≠ .inactive) :
    let ramp := (Ramp.gains lane.network.timing.framesPerCycle lane.ramp).2
    (cycleLane devices lane).1.ramp = ramp ∧
      ((cycleLane devices lane).1.state = lane.state ∨
        ramp.remaining = 0 ∧ (cycleLane devices lane).1.state = lane.state.settled) := by
  intro ramp
  rw [cycleLane, if_neg active]
  dsimp only
  split
  · exact ⟨rfl, .inl rfl⟩
  · refine ⟨rfl, ?_⟩
    dsimp only
    split
    · rename_i isSettled
      exact .inr ⟨(Ramp.isSettled_iff _).mp isSettled, rfl⟩
    · exact .inl rfl

/-- Whether it fails or not, a lane goes on to do what its role asks for. -/
theorem fits_cycleLane (fits : lane.Fits role) (devices : List Device) :
    (cycleLane devices lane).1.Fits role := by
  by_cases idle : lane.state = .inactive
  · rw [cycleLane_of_inactive idle]
    exact fits
  · obtain ⟨isRamp, state⟩ := cycleLane_fst devices idle
    refine ⟨?_, ?_, ?_, fun resting => ?_⟩
    · rcases state with kept | ⟨-, settled⟩
      · rw [kept]
        exact fits.state
      · rw [settled]
        rcases fits.state with resting | fading
        · exact .inl (resting ▸ role.settled_resting)
        · exact .inl (fading ▸ role.settled_fading)
    · rw [isRamp, Ramp.target_gains, fits.target]
    · rw [isRamp]
      exact fits.arrives.gains _
    · rw [isRamp]
      rcases state with kept | ⟨arrived, -⟩
      · rw [Ramp.remaining_gains, fits.settled (kept ▸ resting), Nat.zero_sub]
      · exact arrived

/-- A completed cycle takes its frames off the ramp of a lane, and the lane rests from the
cycle on in which none are left. -/
theorem settles_of_cycleLane {status : StepStatus} (fits : lane.Fits role)
    (completed : cycleLane devices lane = (after, mixed, .ok status)) :
    after.ramp.remaining = lane.ramp.remaining - lane.network.timing.framesPerCycle ∧
      (after.state = role.resting ↔ after.ramp.remaining = 0) := by
  by_cases idle : lane.state = .inactive
  · rw [cycleLane_of_inactive idle] at completed
    cases completed
    have resting : lane.state = role.resting := fits.rests (.inr idle)
    rw [fits.settled resting, Nat.zero_sub]
    exact ⟨rfl, iff_of_true resting rfl⟩
  · have remaining := Ramp.remaining_gains lane.network.timing.framesPerCycle lane.ramp
    rw [cycleLane, if_neg idle] at completed
    dsimp only at completed
    split at completed
    · cases completed
    · cases completed
      refine ⟨remaining, ?_⟩
      rw [← Ramp.isSettled_iff]
      split
      · rename_i arrived
        refine iff_of_true ?_ arrived
        rcases fits.state with resting | fading
        · exact resting ▸ role.settled_resting
        · exact fading ▸ role.settled_fading
      · rename_i underway
        refine iff_of_false (fun resting => underway ?_) underway
        rw [Ramp.isSettled_iff, remaining, fits.settled resting, Nat.zero_sub]

end

/-! ## Pairs -/

section

variable [Processor P] {pair : Crossfade P}

/-- Both lanes do what their roles ask for. -/
def Consistent (pair : Crossfade P) : Prop := ∀ role, (pair.lane role).Fits role

/-- Both ramps have as many frames left, and the lanes rest at the same time; both networks
have cycles of some number of frames. -/
structure InStep (pair : Crossfade P) (frames : Nat) : Prop where
  timing : ∀ role, (pair.network role).timing.framesPerCycle = frames
  remaining : (pair.lane .current).ramp.remaining = (pair.lane .next).ramp.remaining
  resting : pair.state .current = .active ↔ pair.state .next = .inactive

omit [Processor P] in
theorem consistent_new (current next : Network P) (devices : List Device) :
    (new current next devices).Consistent := by
  intro role
  cases role
  · exact ⟨.inl rfl, rfl, Ramp.arrives_still _, fun _ => rfl⟩
  · exact ⟨.inl rfl, rfl, Ramp.arrives_still _, fun _ => rfl⟩

omit [Processor P] in
theorem consistent_beginFade (pair : Crossfade P) (milliseconds : Float) :
    (pair.beginFade milliseconds).Consistent := by
  obtain ⟨coming, leaving⟩ := pair.lane_beginFade milliseconds
  intro role
  cases role
  · rw [coming]
    exact ⟨.inr rfl, Ramp.target_aim _ _ _, Ramp.arrives_aim _ _ _, nofun⟩
  · rw [leaving]
    exact ⟨.inr rfl, Ramp.target_aim _ _ _, Ramp.arrives_aim _ _ _, nofun⟩

theorem Consistent.perform (consistent : pair.Consistent) (action : Action) :
    (pair.perform action).Consistent := by
  intro role
  cases action with
  | cycle =>
      rcases pair.lane_cycle role with kept | ⟨devices, advanced⟩
      · exact kept ▸ consistent role
      · exact advanced ▸ fits_cycleLane (consistent role) devices
  | fade milliseconds => exact consistent_beginFade pair milliseconds role
  | control target operation =>
      obtain ⟨sameState, sameRamp, -⟩ :=
        pair.lane_setNetwork target role ((pair.network target).perform operation)
      exact (consistent role).congr sameState sameRamp
  | read target label var channel type => exact consistent role
  | exchange position device => exact consistent role

theorem Consistent.performAll (consistent : pair.Consistent) (actions : List Action) :
    (pair.performAll actions).Consistent := by
  induction actions generalizing pair with
  | nil => exact consistent
  | cons action rest inductionHypothesis => exact inductionHypothesis (consistent.perform action)

theorem InStep.cycle {frames : Nat} (inStep : pair.InStep frames) (consistent : pair.Consistent)
    {status : StepStatus} (completed : pair.cycle.2 = .ok status) :
    pair.cycle.1.InStep frames := by
  obtain ⟨_, _, _, currentCycle⟩ := pair.cycleLane_of_cycle completed .current
  obtain ⟨_, _, _, nextCycle⟩ := pair.cycleLane_of_cycle completed .next
  obtain ⟨currentLeft, currentRests⟩ := settles_of_cycleLane (consistent .current) currentCycle
  obtain ⟨nextLeft, nextRests⟩ := settles_of_cycleLane (consistent .next) nextCycle
  have sameLeft : (pair.cycle.1.lane .current).ramp.remaining =
      (pair.cycle.1.lane .next).ramp.remaining := by
    have currentFrames : (pair.lane .current).network.timing.framesPerCycle = frames :=
      inStep.timing .current
    have nextFrames : (pair.lane .next).network.timing.framesPerCycle = frames :=
      inStep.timing .next
    rw [currentLeft, nextLeft, currentFrames, nextFrames, inStep.remaining]
  refine ⟨fun role => ?_, sameLeft, currentRests.trans ?_⟩
  · obtain ⟨devices, _, _, advanced⟩ := pair.cycleLane_of_cycle completed role
    have sameTiming := timing_cycleLane devices (pair.lane role)
    rw [advanced] at sameTiming
    exact (congrArg Timing.framesPerCycle sameTiming).trans (inStep.timing role)
  · rw [sameLeft]
    exact nextRests.symm

theorem InStep.perform {frames : Nat} (inStep : pair.InStep frames)
    (consistent : pair.Consistent) {action : Action}
    (completed : ∀ fault, action = .cycle → pair.cycle.2 ≠ .error fault) :
    (pair.perform action).InStep frames := by
  cases action with
  | cycle =>
      cases outcome : pair.cycle.2 with
      | error fault => exact absurd outcome (completed fault rfl)
      | ok status => exact inStep.cycle consistent outcome
  | fade milliseconds =>
      obtain ⟨coming, leaving⟩ := pair.lane_beginFade milliseconds
      refine ⟨fun role => ?_, ?_, ?_⟩
      · cases role
        · exact (congrArg (·.network.timing.framesPerCycle) coming).trans (inStep.timing .next)
        · exact (congrArg (·.network.timing.framesPerCycle) leaving).trans
            (inStep.timing .current)
      · show ((pair.beginFade milliseconds).lane .current).ramp.remaining =
          ((pair.beginFade milliseconds).lane .next).ramp.remaining
        rw [coming, leaving, Ramp.remaining_aim, Ramp.remaining_aim]
      · show ((pair.beginFade milliseconds).lane .current).state = _ ↔
          ((pair.beginFade milliseconds).lane .next).state = _
        rw [coming, leaving]
        exact iff_of_false nofun nofun
  | control target operation =>
      have same := fun role =>
        pair.lane_setNetwork target role ((pair.network target).perform operation)
      refine ⟨fun role => ?_, ?_, ?_⟩
      · obtain ⟨-, -, kept | ⟨rfl, changed⟩⟩ := same role
        · exact (congrArg (·.timing.framesPerCycle) kept).trans (inStep.timing role)
        · refine (congrArg (·.timing.framesPerCycle) changed).trans ?_
          rw [Network.timing_perform]
          exact inStep.timing role
      · exact (congrArg Ramp.remaining (same .current).2.1).trans (inStep.remaining.trans
          (congrArg Ramp.remaining (same .next).2.1).symm)
      · show ((pair.setNetwork _ _).lane .current).state = _ ↔
          ((pair.setNetwork _ _).lane .next).state = _
        rw [(same .current).1, (same .next).1]
        exact inStep.resting
  | read target label var channel type => exact inStep
  | exchange position device => exact ⟨inStep.timing, inStep.remaining, inStep.resting⟩

theorem InStep.performAll {frames : Nat} (inStep : pair.InStep frames)
    (consistent : pair.Consistent) {actions : List Action}
    (completed : ∀ fault, (Action.cycle, Answer.cycle (.error fault)) ∉ pair.journal actions) :
    (pair.performAll actions).InStep frames := by
  induction actions generalizing pair with
  | nil => exact inStep
  | cons action rest inductionHypothesis =>
      refine inductionHypothesis (inStep.perform consistent ?_) (consistent.perform action) ?_
      · rintro fault rfl failed
        refine completed fault ?_
        rw [journal, answer, failed]
        exact List.mem_cons_self
      · exact fun fault later => completed fault (List.mem_cons_of_mem _ later)

end

/-! ## The law of roles -/

/-- A lane that has arrived at the full gain is mixed with exactly that in every frame. -/
theorem gains_of_arrived {ramp : Ramp} (arrives : ramp.Arrives) (full : ramp.target = 1)
    (settled : ramp.remaining = 0) (frames : Nat) :
    (((Ramp.gains frames ramp).1.map Number.narrow).toArray : Gains) =
      Array.replicate frames 1 := by
  have one : Number.narrow 1 = 1 := by decide +kernel
  rw [Ramp.gains_of_settled frames settled, List.map_replicate, arrives settled, full, one,
    List.toArray_replicate]

/-- Whatever is done with a pair of networks, and whatever fails: the current lane is heard or
comes in and goes to the full gain, the other one is idle or goes out and goes to silence. A
ramp without frames left is at its target. A lane that is not in a fade has none left, so one
that is heard is mixed with the full gain in every frame. Where the networks have cycles of one
length and no cycle failed, the ramps have as many frames left as each other, and either
neither lane is in a fade or both are. -/
theorem roles_hold [Processor P] (current next : Network P) (devices : List Device)
    (actions : List Action) :
    let start := new current next devices
    let reached := start.performAll actions
    ((reached.state .current = .active ∨ reached.state .current = .fadeIn) ∧
        (reached.lane .current).ramp.target = 1) ∧
      ((reached.state .next = .inactive ∨ reached.state .next = .fadeOut) ∧
        (reached.lane .next).ramp.target = 0) ∧
      (∀ role, (reached.lane role).ramp.remaining = 0 →
        (reached.lane role).ramp.gain = (reached.lane role).ramp.target) ∧
      (∀ role, reached.state role = .active ∨ reached.state role = .inactive →
        (reached.lane role).ramp.remaining = 0) ∧
      (∀ role, reached.state role = .active → ∀ frames,
        (((Ramp.gains frames (reached.lane role).ramp).1.map Number.narrow).toArray : Gains) =
          Array.replicate frames 1) ∧
      (current.timing.framesPerCycle = next.timing.framesPerCycle →
        (∀ fault, (Action.cycle, Answer.cycle (.error fault)) ∉ start.journal actions) →
          (reached.lane .current).ramp.remaining = (reached.lane .next).ramp.remaining ∧
            (reached.state .current = .active ∧ reached.state .next = .inactive ∨
              reached.state .current = .fadeIn ∧ reached.state .next = .fadeOut)) := by
  intro start reached
  have initial : start.Consistent := consistent_new current next devices
  have consistent : reached.Consistent := initial.performAll actions
  have currentFits := consistent .current
  have nextFits := consistent .next
  refine ⟨⟨currentFits.state, currentFits.target⟩, ⟨nextFits.state, nextFits.target⟩,
    fun role => (consistent role).arrives, ?_, ?_, ?_⟩
  · exact fun role rests => (consistent role).settled ((consistent role).rests rests)
  · intro role active frames
    obtain rfl := (consistent role).current_of_active active
    exact gains_of_arrived currentFits.arrives currentFits.target (currentFits.settled active)
      frames
  · intro sameFrames completed
    have startInStep : start.InStep current.timing.framesPerCycle := by
      refine ⟨fun role => ?_, rfl, iff_of_true rfl rfl⟩
      cases role
      · rfl
      · exact sameFrames.symm
    have inStep := startInStep.performAll initial completed
    refine ⟨inStep.remaining, ?_⟩
    rcases currentFits.state with active | fadeIn
    · exact .inl ⟨active, inStep.resting.mp active⟩
    · refine .inr ⟨fadeIn, ?_⟩
      rcases nextFits.state with inactive | fadeOut
      · cases fadeIn.symm.trans (inStep.resting.mpr inactive)
      · exact fadeOut

/-- A fade that is taken back after its first cycle, and a preset that the network going out
does not have: both lanes are still in the fade, with as many frames left. -/
theorem voices_fade_in_step :
    ∃ network : Network Builtin,
      Network.build Voices.classes Voices.template .standard [] = .ok network ∧
        let reached := (new network network []).performAll
          [.fade 4, .cycle, .fade 2, .control .next (.preset "none" none), .cycle]
        ((reached.lane .current).ramp.remaining = 32 ∧ reached.state .current = .fadeIn) ∧
          (reached.lane .current).ramp.remaining = (reached.lane .next).ramp.remaining ∧
            (reached.state .current = .active ∧ reached.state .next = .inactive ∨
              reached.state .current = .fadeIn ∧ reached.state .next = .fadeOut) := by
  have built : Network.build Voices.classes Voices.template .standard [] = .ok _ := rfl
  refine ⟨_, built, by decide +kernel, ?_⟩
  refine (roles_hold _ _ [] _).2.2.2.2.2 rfl fun fault failed => ?_
  simp only [journal, List.mem_cons, Prod.mk.injEq, reduceCtorEq, false_and, List.not_mem_nil,
    or_false, false_or, true_and] at failed
  rcases failed with first | second
  · cases first
  · cases second

end Crossfade

end SignalNet
