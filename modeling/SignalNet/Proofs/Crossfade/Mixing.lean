import SignalNet.Proofs.Crossfade.Roles
import SignalNet.Proofs.Value.Audio

/-!
Contract: what is heard of a pair of networks.

A cycle clears the common audio outputs and then lets each lane that is not idle add what it
plays, device by device. So a common output device goes through two additions that start from
silence, and what it held before is gone. The crux is `getElem?_cycle`, which says this for the
device at one position; everything else is about one device, one block, and one sample.

Owns: the gain of a frame (`Ramp.gainAt`), what a lane adds to a sample (`Lane.contribution`),
the sum of both lanes (`Crossfade.mixed`), and the law of mixing (`mixing_law`).
-/

set_option autoImplicit false

namespace SignalNet

/-! ## Gains -/

namespace Ramp

/-- The gain of a frame, counted from zero: the ramp moves before the frame is scaled. -/
def gainAt (ramp : Ramp) (n : Nat) : Float32 := Number.narrow (advance^[n + 1] ramp).gain

theorem getElem?_gains (frames n : Nat) (ramp : Ramp) :
    (gains frames ramp).1[n]? =
      if n < frames then some (advance^[n + 1] ramp).gain else none := by
  induction frames generalizing n ramp with
  | zero => rfl
  | succ frames inductionHypothesis =>
      cases n with
      | zero => rfl
      | succ n =>
          rw [gains, List.getElem?_cons_succ, inductionHypothesis]
          simp only [Nat.add_lt_add_iff_right, Function.iterate_succ_apply]

theorem getElem?_narrowed (frames n : Nat) (ramp : Ramp) :
    ((gains frames ramp).1.map Number.narrow).toArray[n]? =
      if n < frames then some (ramp.gainAt n) else none := by
  rw [List.getElem?_toArray, List.getElem?_map, getElem?_gains]
  split <;> rfl

end Ramp

/-! ## One device -/

namespace Device

theorem isAudioOutput_iff {device : Device} :
    device.isAudioOutput = true ↔ ∃ label block, device = ⟨label, .output, .audio block⟩ := by
  constructor
  · intro isOutput
    obtain ⟨label, direction, buffer⟩ := device
    cases direction with
    | input => cases isOutput
    | output =>
        cases buffer with
        | audio block => exact ⟨label, block, rfl⟩
        | midi messages => cases isOutput
        | none => cases isOutput
  · rintro ⟨label, block, rfl⟩
    rfl

end Device

variable {P : Type}

/-- What a lane adds to the sample at a place of the common device at a position: its own sample
there, scaled by the gain of the frame. It adds nothing if it is idle, if the device of its own
has no such sample, or if its cycle is over before the frame. -/
def Lane.contribution (before after : Lane P) (position ch n : Nat) : Option Float32 :=
  if before.state = .inactive ∨ before.network.timing.framesPerCycle ≤ n then none
  else
    (((after.network.devices[position]?).bind (·.audio?)).bind (·.sample? ch n)).map
      (· * before.ramp.gainAt n)

namespace Crossfade

/-- Add a contribution, if there is one. -/
def plus (sum : Float32) : Option Float32 → Float32
  | some sample => sum + sample
  | none => sum

/-- The sum of what both lanes add to the sample at a place, beginning with silence. -/
def mixed (before after : Crossfade P) (position ch n : Nat) : Float32 :=
  [(before.first, after.first), (before.second, after.second)].foldl
    (fun sum lane => plus sum (lane.1.contribution lane.2 position ch n)) 0

def clearOutput (device : Device) : Device :=
  if device.isAudioOutput then device.mapAudio (·.clear) else device

/-- The common device at a position after a lane was advanced. -/
def mixLane (before after : Lane P) (position : Nat) (common : Device) : Device :=
  if before.state = .inactive then common
  else
    match after.network.devices[position]? with
    | some own =>
        mixDevice ((Ramp.gains before.network.timing.framesPerCycle before.ramp).1.map
          Number.narrow).toArray common own
    | none => common

theorem mixLane_of_not_output {common : Device} (other : common.isAudioOutput = false)
    (before after : Lane P) (position : Nat) : mixLane before after position common = common := by
  unfold mixLane
  split
  · rfl
  · split
    · unfold mixDevice
      rw [other]
      split <;> rfl
    · rfl

/-- A lane adds its contribution to every sample of a common output. -/
theorem mixLane_output (before after : Lane P) (position : Nat) (label : String)
    (block : AudioBlock) :
    ∃ sum : AudioBlock,
      mixLane before after position ⟨label, .output, .audio block⟩ =
          ⟨label, .output, .audio sum⟩ ∧
        sum.channels = block.channels ∧ sum.frames = block.frames ∧
        ∀ ch n, sum.sample? ch n = (block.sample? ch n).map
          (plus · (before.contribution after position ch n)) := by
  unfold mixLane
  by_cases idle : before.state = .inactive
  · rw [if_pos idle]
    refine ⟨block, rfl, rfl, rfl, fun ch n => ?_⟩
    rw [Lane.contribution, if_pos (.inl idle)]
    exact Option.map_id'.symm
  · rw [if_neg idle]
    have nothing : (after.network.devices[position]?).bind (·.audio?) = none → ∀ ch n,
        block.sample? ch n =
          (block.sample? ch n).map (plus · (before.contribution after position ch n)) := by
      intro silent ch n
      rw [Lane.contribution, silent, Option.bind_none, Option.map_none, ite_self]
      exact Option.map_id'.symm
    cases found : after.network.devices[position]? with
    | none =>
        rw [found] at nothing
        exact ⟨block, rfl, rfl, rfl, nothing rfl⟩
    | some own =>
        rw [found] at nothing
        cases playing : own.audio? with
        | none =>
            refine ⟨block, ?_, rfl, rfl, nothing playing⟩
            simp only [mixDevice, playing]
        | some source =>
            let gains : Gains := ((Ramp.gains before.network.timing.framesPerCycle
              before.ramp).1.map Number.narrow).toArray
            refine ⟨block.mixIn source gains, ?_, rfl, rfl, fun ch n => ?_⟩
            · simp only [mixDevice, playing]
              rfl
            · rw [AudioBlock.mixIn, AudioBlock.sample?_update]
              refine congrArg (Option.map · _) (funext fun old => ?_)
              rw [Lane.contribution, found, Option.bind_some, playing, Option.bind_some]
              simp only [gains, Ramp.getElem?_narrowed]
              by_cases within : n < before.network.timing.framesPerCycle
              · have sounding : ¬(before.state = .inactive ∨
                    before.network.timing.framesPerCycle ≤ n) := by
                  rintro (rests | ended)
                  · exact idle rests
                  · omega
                rw [if_pos within, if_neg sounding]
                cases source.sample? ch n <;> rfl
              · rw [if_neg within, if_pos (.inr (Nat.le_of_not_lt within))]
                cases source.sample? ch n <;> rfl

/-- A common output begins with silence, so it ends with the sum of the contributions. -/
theorem output_of_cycle (before after : Crossfade P) (position : Nat) (label : String)
    (block : AudioBlock) :
    ∃ sum : AudioBlock,
      mixLane before.second after.second position
          (mixLane before.first after.first position
            (clearOutput ⟨label, .output, .audio block⟩)) = ⟨label, .output, .audio sum⟩ ∧
        sum.channels = block.channels ∧ sum.frames = block.frames ∧
        ∀ ch n, sum.sample? ch n =
          (block.sample? ch n).map fun _ => mixed before after position ch n := by
  obtain ⟨one, firstMixed, oneChannels, oneFrames, oneSamples⟩ :=
    mixLane_output before.first after.first position label block.clear
  obtain ⟨two, secondMixed, twoChannels, twoFrames, twoSamples⟩ :=
    mixLane_output before.second after.second position label one
  refine ⟨two, ?_, twoChannels.trans oneChannels, twoFrames.trans oneFrames, ?_⟩
  · rw [← secondMixed, ← firstMixed]
    rfl
  · intro ch n
    rw [twoSamples, oneSamples, block.sample?_clear, Option.map_map, Option.map_map]
    rfl

/-! ## All devices -/

theorem getElem?_combineDevices (f : Device → Device → Device) (commons owns : List Device)
    (position : Nat) :
    (combineDevices f commons owns)[position]? =
      (owns[position]?).map fun own =>
        match commons[position]? with
        | some common => f common own
        | none => own := by
  fun_induction combineDevices f commons owns generalizing position with
  | case1 common commons own owns inductionHypothesis =>
      cases position with
      | zero => rfl
      | succ position => exact inductionHypothesis position
  | case2 commons owns ended =>
      cases commons with
      | nil => exact Option.map_id'.symm
      | cons common commons =>
          cases owns with
          | nil => rfl
          | cons own owns => exact absurd rfl (ended common commons own owns rfl)

section

variable [Processor P]

/-- A lane that was advanced without a fault has been mixed into the devices at every
position. -/
theorem getElem?_cycleLane {lane after : Lane P} {devices mixed : List Device}
    {status : StepStatus} (completed : cycleLane devices lane = (after, mixed, .ok status))
    (position : Nat) :
    mixed[position]? = (devices[position]?).map (mixLane lane after position) := by
  unfold cycleLane at completed
  by_cases idle : lane.state = .inactive
  · rw [if_pos idle] at completed
    cases completed
    have isKept : mixLane lane lane position = id := by
      funext common
      rw [mixLane, if_pos idle]
      rfl
    rw [isKept, Option.map_id, id]
  · rw [if_neg idle] at completed
    dsimp only at completed
    split at completed
    · cases completed
    · cases completed
      rw [getElem?_combineDevices]
      refine congrArg (Option.map · _) (funext fun common => ?_)
      rw [mixLane, if_neg idle]

theorem getElem?_clearOutputs (devices : List Device) (position : Nat) :
    (clearOutputs devices)[position]? = (devices[position]?).map clearOutput :=
  List.getElem?_map

/-- In a completed cycle, the common device at a position is cleared and mixed with what the
first lane plays and then with what the second one plays. -/
theorem getElem?_cycle {pair : Crossfade P} {status : StepStatus}
    (completed : pair.cycle.2 = .ok status) (position : Nat) :
    pair.cycle.1.devices[position]? =
      (pair.devices[position]?).map fun common =>
        mixLane pair.second pair.cycle.1.second position
          (mixLane pair.first pair.cycle.1.first position (clearOutput common)) := by
  unfold cycle at completed ⊢
  split at completed
  · cases completed
  · rename_i first devices reported firstDone
    split at completed
    · cases completed
    · rename_i second mixed next secondDone
      rw [getElem?_cycleLane secondDone, getElem?_cycleLane firstDone, getElem?_clearOutputs,
        Option.map_map, Option.map_map]
      rfl

/-- What a cycle does depends on the common devices only once their outputs are cleared. -/
theorem cycle_of_clearOutputs {pair : Crossfade P} {devices : List Device}
    (sameCleared : clearOutputs devices = clearOutputs pair.devices) :
    ({ pair with devices } : Crossfade P).cycle = pair.cycle := by
  unfold cycle
  rw [sameCleared]

/-- A lane that is idle at the beginning of a completed cycle is left alone. -/
theorem lane_cycle_of_inactive {pair : Crossfade P} {status : StepStatus}
    (completed : pair.cycle.2 = .ok status) {role : Role}
    (idle : (pair.lane role).state = .inactive) : pair.cycle.1.lane role = pair.lane role := by
  obtain ⟨devices, mixed, reported, advanced⟩ := pair.cycleLane_of_cycle completed role
  rw [cycleLane_of_inactive idle] at advanced
  exact (congrArg Prod.fst advanced).symm

/-- The law of mixing, for every pair of networks and every cycle of it that is completed.
There are as many common devices as before. A common audio output keeps its label and its
shape, and each sample of it is the sum, from zero and in the order of the lanes, of what the
lanes add that were not idle: the sample of the device of their own at the position, times the
gain of the frame. If the output is whole, these are the samples at all of its places. Every other
common device is unchanged, and so is a lane that is idle. What the outputs held before has no
influence on anything. -/
theorem mixing_law (pair : Crossfade P) {status : StepStatus}
    (completed : pair.cycle.2 = .ok status) :
    let after := pair.cycle.1
    after.devices.length = pair.devices.length ∧
      (∀ (position : Nat) label block,
        pair.devices[position]? = some ⟨label, .output, .audio block⟩ →
          ∃ sum : AudioBlock,
            after.devices[position]? = some ⟨label, .output, .audio sum⟩ ∧
              sum.channels = block.channels ∧ sum.frames = block.frames ∧
              (∀ ch n, sum.sample? ch n =
                (block.sample? ch n).map fun _ => mixed pair after position ch n) ∧
              (block.Whole → ∀ ch < block.channels, ∀ n < block.frames,
                sum.sample? ch n = some (mixed pair after position ch n))) ∧
      (∀ (position : Nat) (device : Device), pair.devices[position]? = some device →
        (∀ label block, device ≠ ⟨label, .output, .audio block⟩) →
          after.devices[position]? = some device) ∧
      (∀ role, (pair.lane role).state = .inactive → after.lane role = pair.lane role) ∧
      ∀ devices, clearOutputs devices = clearOutputs pair.devices →
        ({ pair with devices } : Crossfade P).cycle = pair.cycle := by
  intro after
  have devicesAt := getElem?_cycle completed
  refine ⟨?_, ?_, ?_, fun role => lane_cycle_of_inactive completed,
    fun devices => cycle_of_clearOutputs⟩
  · have listed : after.devices = pair.devices.mapIdx fun position common =>
        mixLane pair.second after.second position
          (mixLane pair.first after.first position (clearOutput common)) :=
      List.ext_getElem? fun position => by
        rw [List.getElem?_mapIdx]
        exact devicesAt position
    rw [listed, List.length_mapIdx]
  · intro position label block found
    obtain ⟨sum, isSum, channels, frames, samples⟩ :=
      output_of_cycle pair after position label block
    refine ⟨sum, ?_, channels, frames, samples, fun whole ch channelBelow n frameBelow => ?_⟩
    · rw [devicesAt, found, Option.map_some, isSum]
    · rw [samples, block.sample?_eq_stored whole channelBelow channelBelow frameBelow,
        Option.map_some]
  · intro position device found differs
    have other : device.isAudioOutput = false := by
      refine Bool.eq_false_iff.mpr fun isOutput => ?_
      obtain ⟨label, block, same⟩ := Device.isAudioOutput_iff.mp isOutput
      exact differs label block same
    have isKept : clearOutput device = device := by
      rw [clearOutput, other]
      rfl
    rw [devicesAt, found, Option.map_some, isKept, mixLane_of_not_output other,
      mixLane_of_not_output other]

end

namespace Relay

/-- A class that reads a device, and one that writes a device. -/
def classes : ClassSet Builtin :=
  ⟨[⟨"audio_in", [⟨"out", "", some .audio, .empty, none, false, none⟩], [],
      .plain Builtin.audioInClass, none⟩,
    ⟨"audio_out", [⟨"in", "", some .audio, .empty, none, false, none⟩], [],
      .plain Builtin.audioOutClass, none⟩]⟩

/-- What comes in goes out. -/
def template : Template :=
  ⟨[⟨"ear", "audio_in", .empty, [], none, none, some "microphone"⟩,
    ⟨"mouth", "audio_out", .empty, [⟨"in", "ear.out"⟩], none, none, some "speaker"⟩], []⟩

/-- A microphone, and a speaker with something of an earlier cycle in it. -/
def devices : List Device :=
  [⟨"microphone", .input, .audio (.tabulate 1 2 fun _ n => if n = 0 then 1 else 0.5)⟩,
    ⟨"speaker", .output, .audio (.tabulate 1 2 fun _ _ => 9)⟩]

end Relay

/-- In the middle of a fade, each network hears with half of the gain and is heard with half of
it, and the noise that was in the speaker is gone. -/
theorem relay_mixes :
    ∃ network : Network Builtin,
      Network.build Relay.classes Relay.template ⟨1000, 2⟩ Relay.devices = .ok network ∧
        let pair := (new network network Relay.devices).beginFade 4
        ∃ sum : AudioBlock,
          pair.cycle.1.devices[1]? = some ⟨"speaker", .output, .audio sum⟩ ∧
            sum.sample? 0 1 = some (mixed pair pair.cycle.1 1 0 1) ∧
            mixed pair pair.cycle.1 1 0 1 = 0.25 := by
  have reports : (Network.build Relay.classes Relay.template ⟨1000, 2⟩ Relay.devices).map
      (fun network =>
        let pair := (new network network Relay.devices).beginFade 4
        (pair.cycle.2, mixed pair pair.cycle.1 1 0 1)) = .ok (.ok .proceed, 0.25) := by
    decide +kernel
  obtain ⟨network, built, reported⟩ := map_eq_ok.mp reports
  obtain ⟨completed, quarter⟩ := Prod.mk.inj reported
  refine ⟨network, built, ?_⟩
  obtain ⟨-, outputs, -⟩ :=
    mixing_law ((new network network Relay.devices).beginFade 4) completed
  obtain ⟨sum, isSum, -, -, -, samples⟩ :=
    outputs 1 "speaker" (.tabulate 1 2 fun _ _ => 9) rfl
  exact ⟨sum, isSum, samples (by decide) 0 (by decide) 1 (by decide), quarter⟩

end Crossfade

end SignalNet
