import Mathlib.Algebra.Order.Floor.Div
import SignalNet.Proofs.Crossfade.Mixing

/-!
Contract: how long a fade takes.

A fade is given a number of frames, and each completed cycle takes those of its network off, the
two lanes each at their own pace. So what is left after some cycles is known from their number
alone, whatever is done with the networks in between. A lane rests at the end of the first cycle
after which nothing is left, which is never the call itself: a fade without frames takes one
cycle. The gain does not wait for the end of the cycle, it is that of the target from the last
frame of the fade on.

Owns: lanes in the course of a fade (`Lane.Underway`), what one action and what a run make of
it, and the law of the length (`fade_takes_its_cycles`).
-/

set_option autoImplicit false

namespace SignalNet

/-! ## Frames of a ramp -/

namespace Ramp

variable {ramp : Ramp}

theorem target_iterate_advance (ramp : Ramp) (n : Nat) :
    (advance^[n] ramp).target = ramp.target := by
  induction n with
  | zero => rfl
  | succ n inductionHypothesis =>
      rw [Function.iterate_succ_apply', target_advance, inductionHypothesis]

theorem remaining_iterate_advance (ramp : Ramp) (n : Nat) :
    (advance^[n] ramp).remaining = ramp.remaining - n := by
  induction n with
  | zero => rfl
  | succ n inductionHypothesis =>
      rw [Function.iterate_succ_apply', remaining_advance, inductionHypothesis, Nat.sub_sub]

theorem Arrives.iterate_advance (arrives : ramp.Arrives) (n : Nat) :
    (Ramp.advance^[n] ramp).Arrives := by
  induction n with
  | zero => exact arrives
  | succ n inductionHypothesis =>
      rw [Function.iterate_succ_apply']
      exact inductionHypothesis.advance

/-- After as many frames as are left, and ever after, the gain is that of the target. -/
theorem Arrives.gain_iterate_advance (arrives : ramp.Arrives) {n : Nat}
    (enough : ramp.remaining ≤ n) : (Ramp.advance^[n] ramp).gain = ramp.target := by
  have ended : (Ramp.advance^[n] ramp).remaining = 0 := by
    rw [remaining_iterate_advance]
    exact Nat.sub_eq_zero_of_le enough
  rw [arrives.iterate_advance n ended, target_iterate_advance]

end Ramp

/-- The gain with which a lane that has arrived is mixed. -/
def Role.level : Role → Float32
  | current => 1
  | next => 0

theorem Role.narrow_target (role : Role) : Number.narrow role.target = role.level := by
  cases role <;> decide +kernel

theorem Role.resting_ne_fading (role : Role) : role.resting ≠ role.fading := by
  cases role <;> decide

variable {P : Type}

/-! ## Lanes in the course of a fade -/

/-- Some cycles after a fade of some frames has begun: each cycle has taken its frames off, and
the lane rests if there were cycles and they have covered the fade. -/
structure Lane.Underway (lane : Lane P) (role : Role) (frames duration cycles : Nat) : Prop where
  fits : lane.Fits role
  timing : lane.network.timing.framesPerCycle = frames
  remaining : lane.ramp.remaining = duration - cycles * frames
  rests : lane.state = role.resting ↔ 0 < cycles ∧ duration ≤ cycles * frames

namespace Lane.Underway

variable {lane other : Lane P} {role : Role} {frames duration cycles : Nat}

theorem congr (underway : lane.Underway role frames duration cycles)
    (sameState : other.state = lane.state) (sameRamp : other.ramp = lane.ramp)
    (sameTiming : other.network.timing = lane.network.timing) :
    other.Underway role frames duration cycles where
  fits := underway.fits.congr sameState sameRamp
  timing := sameTiming ▸ underway.timing
  remaining := sameRamp ▸ underway.remaining
  rests := sameState ▸ underway.rests

/-- A completed cycle is one more cycle of the fade. -/
theorem cycleLane [Processor P] {after : Lane P} {devices mixed : List Device}
    {status : StepStatus} (underway : lane.Underway role frames duration cycles)
    (completed : Crossfade.cycleLane devices lane = (after, mixed, .ok status)) :
    after.Underway role frames duration (cycles + 1) := by
  obtain ⟨left, rests⟩ := Crossfade.settles_of_cycleLane underway.fits completed
  have sameTiming := Crossfade.timing_cycleLane devices lane
  have stillFits := Crossfade.fits_cycleLane underway.fits devices
  rw [completed] at sameTiming stillFits
  have remaining : after.ramp.remaining = duration - (cycles + 1) * frames := by
    rw [left, underway.remaining, underway.timing, Nat.sub_sub, Nat.succ_mul]
  refine ⟨stillFits, ?_, remaining, ?_⟩
  · rw [sameTiming, underway.timing]
  · rw [rests, remaining, Nat.sub_eq_zero_iff_le, and_iff_right (Nat.succ_pos cycles)]

/-- A lane is in the fade for as many cycles as it takes to cover the fade, and for one cycle at
least. -/
theorem state (underway : lane.Underway role frames duration cycles) (framed : 0 < frames) :
    (cycles < max 1 (duration ⌈/⌉ frames) → lane.state = role.fading) ∧
      (max 1 (duration ⌈/⌉ frames) ≤ cycles → lane.state = role.resting) := by
  have covered : max 1 (duration ⌈/⌉ frames) ≤ cycles ↔
      0 < cycles ∧ duration ≤ cycles * frames := by
    rw [max_le_iff, ceilDiv_le_iff_le_mul framed, Nat.mul_comm]
    exact Iff.rfl
  constructor
  · intro early
    refine underway.fits.state.resolve_left fun rests => ?_
    exact Nat.not_le_of_lt early (covered.mpr (underway.rests.mp rests))
  · intro late
    exact underway.rests.mpr (covered.mp late)

/-- From the last frame of the fade on, the gain is that of the target. -/
theorem gain_iterate_advance (underway : lane.Underway role frames duration cycles) {n : Nat}
    (passed : duration ≤ cycles * frames + n) :
    (Ramp.advance^[n] lane.ramp).gain = role.target := by
  rw [← underway.fits.target]
  refine underway.fits.arrives.gain_iterate_advance ?_
  rw [underway.remaining]
  omega

theorem gainAt (underway : lane.Underway role frames duration cycles) {n : Nat}
    (passed : duration ≤ cycles * frames + (n + 1)) : lane.ramp.gainAt n = role.level := by
  rw [Ramp.gainAt, underway.gain_iterate_advance passed, role.narrow_target]

end Lane.Underway

namespace Crossfade

variable [Processor P] {pair : Crossfade P} {role : Role} {frames duration cycles : Nat}

def Action.isCycle : Action → Bool
  | .cycle => true
  | _ => false

def Action.isFade : Action → Bool
  | .fade _ => true
  | _ => false

omit [Processor P] in
theorem underway_beginFade (pair : Crossfade P) (milliseconds : Float) (role : Role) :
    let faded := pair.beginFade milliseconds
    (faded.lane role).Underway role (faded.network role).timing.framesPerCycle
      (pair.fadeFrames milliseconds) 0 := by
  intro faded
  obtain ⟨coming, leaving⟩ := pair.lane_beginFade milliseconds
  have begun : (faded.lane role).state = role.fading ∧
      (faded.lane role).ramp.remaining = pair.fadeFrames milliseconds := by
    cases role
    · exact coming ▸ ⟨rfl, Ramp.remaining_aim _ _ _⟩
    · exact leaving ▸ ⟨rfl, Ramp.remaining_aim _ _ _⟩
  refine ⟨consistent_beginFade pair milliseconds role, rfl, ?_, ?_⟩
  · rw [begun.2, Nat.zero_mul, Nat.sub_zero]
  · refine iff_of_false (fun rests => ?_) fun started => Nat.lt_irrefl 0 started.1
    exact role.resting_ne_fading (rests.symm.trans begun.1)

/-- Of the actions that are no fade, a completed cycle takes the fade on by one cycle, and the
others leave it where it is. -/
theorem underway_perform (underway : (pair.lane role).Underway role frames duration cycles)
    {action : Action} (noFade : action.isFade = false)
    (completed : ∀ fault, (action, pair.answer action) ≠ (.cycle, .cycle (.error fault))) :
    ((pair.perform action).lane role).Underway role frames duration
      (cycles + if action.isCycle then 1 else 0) := by
  cases action with
  | cycle =>
      cases outcome : pair.cycle.2 with
      | error fault => exact absurd (by rw [answer, outcome]) (completed fault)
      | ok status =>
          obtain ⟨devices, mixed, reported, advanced⟩ := pair.cycleLane_of_cycle outcome role
          exact underway.cycleLane advanced
  | fade milliseconds => cases noFade
  | control target operation =>
      obtain ⟨sameState, sameRamp, network⟩ :=
        pair.lane_setNetwork target role ((pair.network target).perform operation)
      refine underway.congr sameState sameRamp ?_
      rcases network with kept | ⟨rfl, changed⟩
      · exact congrArg (·.timing) kept
      · exact (congrArg (·.timing) changed).trans (Network.timing_perform _ _)
  | read target label var channel type => exact underway
  | exchange position device => exact underway

theorem underway_performAll (underway : (pair.lane role).Underway role frames duration cycles)
    {actions : List Action} (noFade : ∀ action ∈ actions, action.isFade = false)
    (completed : ∀ fault, (Action.cycle, Answer.cycle (.error fault)) ∉ pair.journal actions) :
    ((pair.performAll actions).lane role).Underway role frames duration
      (cycles + actions.countP (·.isCycle)) := by
  induction actions generalizing pair cycles with
  | nil => exact underway
  | cons action rest inductionHypothesis =>
      have next := underway_perform underway (noFade action List.mem_cons_self) fun fault failed =>
        completed fault (failed ▸ List.mem_cons_self)
      have later := inductionHypothesis next
        (fun other member => noFade other (List.mem_cons_of_mem _ member))
        (fun fault failed => completed fault (List.mem_cons_of_mem _ failed))
      rw [List.countP_cons, ← Nat.add_assoc, Nat.add_right_comm]
      exact later

/-! ## The law of the length -/

/-- A fade may begin at any time in the life of a pair, also in the middle of another one. When
no other one is begun after it and no cycle fails, a lane stays in the fade for as many cycles as
cover its frames, at least for one, and rests after them; what else is done with the pair in
between makes no difference. From the last of the frames on its gain is exactly that of its role,
between the cycles and in every frame of the next one. -/
theorem fade_takes_its_cycles (current next : Network P) (devices : List Device)
    (before : List Action) (milliseconds : Float) (after : List Action)
    (noFade : ∀ action ∈ after, action.isFade = false)
    (completed : ∀ fault, (Action.cycle, Answer.cycle (.error fault)) ∉
      (((new current next devices).performAll before).beginFade milliseconds).journal after)
    (role : Role) :
    let pair := (new current next devices).performAll before
    let faded := pair.beginFade milliseconds
    let reached := faded.performAll after
    let duration := pair.fadeFrames milliseconds
    let frames := (faded.network role).timing.framesPerCycle
    let cycles := after.countP (·.isCycle)
    (0 < frames →
        (cycles < max 1 (duration ⌈/⌉ frames) → reached.state role = role.fading) ∧
          (max 1 (duration ⌈/⌉ frames) ≤ cycles → reached.state role = role.resting)) ∧
      (∀ n, duration ≤ cycles * frames + n →
        (Ramp.advance^[n] (reached.lane role).ramp).gain = role.target) ∧
        ∀ n, duration ≤ cycles * frames + (n + 1) →
          (reached.lane role).ramp.gainAt n = role.level := by
  intro pair faded reached duration frames cycles
  have underway : (reached.lane role).Underway role frames duration (0 + cycles) :=
    underway_performAll (underway_beginFade pair milliseconds role) noFade completed
  rw [Nat.zero_add] at underway
  exact ⟨underway.state, fun n => underway.gain_iterate_advance, fun n => underway.gainAt⟩

/-- A fade that interrupts another one, between networks with cycles of different lengths: two
cycles cover its 96 frames for the network that comes in and has cycles of 64, and not for the
one that goes out and has cycles of 40, which is silent from the frame at 15 of its third cycle
on. -/
theorem interrupting_fade_takes_its_cycles :
    ∃ wide narrow : Network Builtin,
      Network.build Voices.classes Voices.template ⟨48000, 64⟩ [] = .ok wide ∧
      Network.build Voices.classes Voices.template ⟨48000, 40⟩ [] = .ok narrow ∧
        let pair := (new wide narrow []).performAll [.fade 10, .cycle]
        let reached := (pair.beginFade 2).performAll
          [.cycle, .read .next "none" "none" 0 .double, .cycle]
        pair.state .current = .fadeIn ∧ pair.fadeFrames 2 = 96 ∧
          reached.state .current = .active ∧ reached.state .next = .fadeOut ∧
          (reached.lane .current).ramp.gainAt 0 = 1 ∧ (reached.lane .next).ramp.gainAt 15 = 0 := by
  have wideBuilt : Network.build Voices.classes Voices.template ⟨48000, 64⟩ [] = .ok _ := rfl
  have narrowBuilt : Network.build Voices.classes Voices.template ⟨48000, 40⟩ [] = .ok _ := rfl
  refine ⟨_, _, wideBuilt, narrowBuilt, ?_⟩
  intro pair reached
  have frames : pair.fadeFrames 2 = 96 := by decide +kernel
  have allDone : ((pair.beginFade 2).journal [.cycle, .read .next "none" "none" 0 .double,
      .cycle]).all (fun entry => match entry.2 with
        | .cycle (.error _) => false
        | _ => true) = true := by
    decide +kernel
  have completed : ∀ fault, (Action.cycle, Answer.cycle (.error fault)) ∉ (pair.beginFade 2).journal
      [.cycle, .read .next "none" "none" 0 .double, .cycle] := fun fault failed => by
    cases List.all_eq_true.mp allDone _ failed
  have law := fade_takes_its_cycles _ _ [] [.fade 10, .cycle] 2 _ (by decide) completed
  have wideFrames : ((pair.beginFade 2).network .current).timing.framesPerCycle = 64 := by
    decide +kernel
  have narrowFrames : ((pair.beginFade 2).network .next).timing.framesPerCycle = 40 := by
    decide +kernel
  obtain ⟨currentStates, -, currentGains⟩ := law .current
  obtain ⟨nextStates, -, nextGains⟩ := law .next
  rw [frames, wideFrames] at currentStates currentGains
  rw [frames, narrowFrames] at nextStates nextGains
  exact ⟨by decide +kernel, frames, (currentStates (by decide)).2 (by decide),
    (nextStates (by decide)).1 (by decide), currentGains 0 (by decide), nextGains 15 (by decide)⟩

end Crossfade

end SignalNet
