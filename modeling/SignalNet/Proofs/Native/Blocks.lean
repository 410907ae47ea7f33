import SignalNet.Proofs.Native.Rows
import SignalNet.Proofs.Native.Steadiness
import SignalNet.Proofs.Value.Audio

/-!
Contract: blocks that a step writes over.

An output processor writes its device, and a mixer its buffer and its output, over what earlier
cycles left there. Both run over channels by addresses, with sources of shapes of their own. What
such a step leaves behind depends on the shapes and the samples that it reads in this cycle, and on
nothing that was there before.

Owns: the sample that a played block and a mixed one have at a place (`sample?_play`,
`sample?_mixInto`), and the laws of the two steps (`output_step_overwrites`, `mix_step_sums`).
-/

set_option autoImplicit false

namespace SignalNet.Builtin

/-! ## Playing -/

/-- The loop that plays a source goes through all channels of the sink, and through those of the
source that the sink has too. -/
structure Playable (source : Option AudioBlock) (sink : AudioBlock) : Prop where
  whole : sink.Whole
  inRange : ∀ block, source = some block → (block.span (min sink.channels block.channels)).InRange

theorem playable_iff (input : Nat) (bank : Bank) (context : CycleContext) {device : Device}
    {sink : AudioBlock} (isAudio : device.audio? = some sink) :
    (∀ span ∈ spans (.audioOut input) bank context (some device), span.InRange) ↔
      Playable (bank.audio? input) sink := by
  dsimp only [spans]
  rw [Option.bind_some, isAudio]
  dsimp only
  rw [List.forall_mem_cons, List.forall_mem_map]
  constructor
  · rintro ⟨whole, inRange⟩
    exact ⟨whole, fun block isInput => inRange block (Option.mem_toList.mpr isInput)⟩
  · rintro ⟨whole, inRange⟩
    exact ⟨whole, fun block isInput => inRange block (Option.mem_toList.mp isInput)⟩

/-- Within the places of the sink the guards let through exactly the samples of the source. -/
theorem playedSample_eq {source : Option AudioBlock} {sink : AudioBlock}
    (playable : Playable source sink) {ch n : Nat} (inSink : ch < sink.channels)
    (frameBelow : n < sink.frames) :
    playedSample source sink.frames ch n = source.elim 0 (·.sampleD ch n) := by
  cases source with
  | none => rfl
  | some block =>
      by_cases channelBelow : ch < block.channels
      · have kept : (some block).filter (ch < ·.channels) = some block :=
          Option.filter_eq_some_iff.mpr ⟨rfl, decide_eq_true channelBelow⟩
        rw [playedSample, kept]
        by_cases sourceFrame : n < block.frames
        · have reached : n < min sink.frames block.frames :=
            Nat.lt_min.mpr ⟨frameBelow, sourceFrame⟩
          rw [Option.elim_some, AudioBlock.sampleD, block.sample?_eq_stored
            (playable.inRange block rfl) (Nat.lt_min.mpr ⟨inSink, channelBelow⟩) channelBelow
              sourceFrame]
          exact if_pos reached
        · have behind : ¬ n < min sink.frames block.frames := fun reached =>
            sourceFrame (Nat.lt_min.mp reached).2
          rw [Option.elim_some, AudioBlock.sampleD, AudioBlock.sample?,
            if_neg fun inside => sourceFrame inside.2]
          exact if_neg behind
      · have dropped : (some block).filter (ch < ·.channels) = none := by
          simpa using channelBelow
        rw [playedSample, dropped, Option.elim_some, AudioBlock.sampleD, AudioBlock.sample?,
          if_neg fun inside => channelBelow inside.1]
        rfl

theorem play_shape (source : Option AudioBlock) (sink : AudioBlock) :
    (play source sink).channels = sink.channels ∧ (play source sink).frames = sink.frames :=
  sink.modifyChannels_shape _ _

/-- A played block has the sample of its source at every place that it has. -/
theorem sample?_play {source : Option AudioBlock} {sink : AudioBlock}
    (playable : Playable source sink) {ch n : Nat} (channelBelow : ch < sink.channels)
    (frameBelow : n < sink.frames) :
    (play source sink).sample? ch n = some (source.elim 0 (·.sampleD ch n)) := by
  rw [play, AudioBlock.sample?_modifyChannels,
    sink.sample?_eq_stored playable.whole channelBelow channelBelow frameBelow,
    Option.map_some, if_pos channelBelow, playedSample_eq playable channelBelow frameBelow]

theorem Playable.of_shape {source : Option AudioBlock} {sink other : AudioBlock}
    (playable : Playable source sink) (channels : other.channels = sink.channels)
    (frames : other.frames = sink.frames) : Playable source other where
  whole := playable.whole.of_shape channels frames
  inRange := by
    rw [channels]
    exact playable.inRange

/-- Of the block that is played over, only the shape remains. -/
theorem play_congr {source : Option AudioBlock} {sink other : AudioBlock}
    (playable : Playable source sink) (channels : other.channels = sink.channels)
    (frames : other.frames = sink.frames) : play source other = play source sink := by
  obtain ⟨sinkChannels, sinkFrames⟩ := play_shape source sink
  obtain ⟨otherChannels, otherFrames⟩ := play_shape source other
  apply AudioBlock.eq_of_samples
  · rw [otherChannels, sinkChannels, channels]
  · rw [otherFrames, sinkFrames, frames]
  · intro ch channelBelow n frameBelow
    rw [otherChannels] at channelBelow
    rw [otherFrames] at frameBelow
    rw [sample?_play (playable.of_shape channels frames) channelBelow frameBelow,
      sample?_play playable (channels ▸ channelBelow) (frames ▸ frameBelow)]

theorem step_audioOut (input : Nat) (bank : Bank) (context : CycleContext) {device : Device}
    {sink : AudioBlock} (isAudio : device.audio? = some sink)
    (playable : Playable (bank.audio? input) sink) :
    step (.audioOut input) bank context (some device) =
      ⟨.audioOut input, bank,
        some ⟨device.label, device.direction, .audio (play (bank.audio? input) sink)⟩,
        context, .ok .proceed⟩ := by
  rw [step_of_inRange ((playable_iff input bank context isAudio).mpr playable)]
  obtain ⟨label, direction, buffer⟩ := device
  cases buffer with
  | audio block =>
      cases isAudio
      rfl
  | midi messages => cases isAudio
  | none => cases isAudio

/-- An output processor steps successfully exactly on a device with audio where the samples that
it goes through are there. It leaves everything but the block of the device as it was, and writes
this block over: at each of its places there is the sample of the input, or silence where the input
has none, whatever was there before. -/
theorem output_step_overwrites (input : Nat) (bank : Bank) (context : CycleContext)
    (device : Option Device) :
    ((∃ status, (step (.audioOut input) bank context device).outcome = .ok status) ↔
        ∃ bound sink, device = some bound ∧ bound.audio? = some sink ∧
          Playable (bank.audio? input) sink) ∧
      ∀ bound sink, device = some bound → bound.audio? = some sink →
        ∀ status, (step (.audioOut input) bank context device).outcome = .ok status →
        ∃ played, step (.audioOut input) bank context device =
            ⟨.audioOut input, bank, some ⟨bound.label, bound.direction, .audio played⟩,
              context, .ok .proceed⟩ ∧
          played.channels = sink.channels ∧ played.frames = sink.frames ∧
          (∀ ch < sink.channels, ∀ n < sink.frames,
            played.sample? ch n = some ((bank.audio? input).elim 0 (·.sampleD ch n))) ∧
          ∀ old : AudioBlock, old.channels = sink.channels → old.frames = sink.frames →
            step (.audioOut input) bank context
                (some ⟨bound.label, bound.direction, .audio old⟩) =
              step (.audioOut input) bank context device := by
  refine ⟨⟨?_, ?_⟩, ?_⟩
  · rintro ⟨status, done⟩
    have inRange := inRange_of_step done
    cases isBound : device.bind (·.audio?) with
    | none =>
        rw [step_of_inRange inRange, process, isBound] at done
        cases done
    | some sink =>
        obtain ⟨bound, rfl, isAudio⟩ := Option.bind_eq_some_iff.mp isBound
        exact ⟨bound, sink, rfl, isAudio, (playable_iff input bank context isAudio).mp inRange⟩
  · rintro ⟨bound, sink, rfl, isAudio, playable⟩
    exact ⟨.proceed, by rw [step_audioOut input bank context isAudio playable]⟩
  · rintro bound sink rfl isAudio status done
    have playable := (playable_iff input bank context isAudio).mp (inRange_of_step done)
    obtain ⟨channels, frames⟩ := play_shape (bank.audio? input) sink
    refine ⟨play (bank.audio? input) sink, step_audioOut input bank context isAudio playable,
      channels, frames,
      fun ch channelBelow n frameBelow => sample?_play playable channelBelow frameBelow, ?_⟩
    intro old sameChannels sameFrames
    have oldIsAudio : (⟨bound.label, bound.direction, .audio old⟩ : Device).audio? = some old := rfl
    rw [step_audioOut input bank context oldIsAudio (playable.of_shape sameChannels sameFrames),
      step_audioOut input bank context isAudio playable,
      play_congr playable sameChannels sameFrames]

namespace Stale

/-- One channel of two frames. -/
def short : AudioBlock := .tabulate 1 2 fun _ n => if n = 0 then 1 else 0.5

/-- Two channels of one frame. -/
def tall : AudioBlock := .tabulate 2 1 fun _ _ => 3

/-- A bank with both, two gains, and something of an earlier cycle in a larger block. -/
def bank : Bank :=
  ⟨[⟨"in0", .audio, .empty, [.audio short]⟩, ⟨"in1", .audio, .empty, [.audio tall]⟩,
    ⟨"gain0", .float, .empty, [.float 0.5]⟩, ⟨"gain1", .float, .empty, [.float 2]⟩,
    ⟨"out", .audio, .empty, [.audio (.tabulate 3 3 fun _ _ => 9)]⟩]⟩

/-- A device with more channels and frames than what is played on it, full of noise. -/
def speaker : Device := ⟨"speaker", .output, .audio (.tabulate 2 3 fun _ _ => 9)⟩

end Stale

/-- A short block is heard, and neither the rest of its channel nor the next channel keeps the
noise that was there. -/
theorem noise_overwritten :
    ∃ played, (step (.audioOut 0) Stale.bank ⟨.standard, 0⟩ (some Stale.speaker)).device =
        some ⟨"speaker", .output, .audio played⟩ ∧
      played.sample? 0 1 = some 0.5 ∧ played.sample? 0 2 = some 0 ∧
      played.sample? 1 0 = some 0 := by
  obtain ⟨-, overwritten⟩ :=
    output_step_overwrites 0 Stale.bank ⟨.standard, 0⟩ (some Stale.speaker)
  obtain ⟨played, stepped, -, -, samples, -⟩ := overwritten Stale.speaker _ rfl rfl .proceed rfl
  refine ⟨played, congrArg StepResult.device stepped, ?_, ?_, ?_⟩
  · exact (samples 0 (by decide) 1 (by decide)).trans (by decide +kernel)
  · exact (samples 0 (by decide) 2 (by decide)).trans (by decide +kernel)
  · exact (samples 1 (by decide) 0 (by decide)).trans (by decide +kernel)

/-! ## Summing -/

/-- A sum with the scaled sample of one more source, which stays as it is where the source has no
sample. -/
def withSample (sum : Float32) (source : Option AudioBlock) (gain : Float32) (ch n : Nat) :
    Float32 :=
  match source.bind (·.sample? ch n) with
  | some sample => sum + sample * gain
  | none => sum

/-- The loops that add blocks go through all channels of each of them, and as many of the buffer,
which has the largest of their shapes. -/
structure Mixable (inputs : List (Option AudioBlock × Float32)) : Prop where
  whole : ∀ block ∈ inputs.filterMap (·.1), block.Whole
  inRange : ∀ block ∈ inputs.filterMap (·.1),
    Span.InRange ⟨largest (·.channels) (inputs.filterMap (·.1)),
      largest (·.frames) (inputs.filterMap (·.1)), block.channels⟩

/-- The loop over an input with the most channels goes through the whole buffer. -/
theorem Mixable.whole_silenced {inputs : List (Option AudioBlock × Float32)}
    (mixable : Mixable inputs) (buffer : AudioBlock) : (silenced buffer inputs).Whole := by
  rw [AudioBlock.Whole, AudioBlock.span, silenced_channels, silenced_frames]
  cases attained : ((inputs.filterMap (·.1)).map (·.channels)).max? with
  | none =>
      have nothing : largest (·.channels) (inputs.filterMap (·.1)) = 0 := by
        rw [largest_eq, attained, Option.getD_none]
      rw [nothing, Span.InRange, Nat.zero_mul]
      exact Nat.zero_le _
  | some most =>
      have isLargest : largest (·.channels) (inputs.filterMap (·.1)) = most := by
        rw [largest_eq, attained, Option.getD_some]
      obtain ⟨block, isInput, isMost⟩ := List.mem_map.mp (List.max?_mem attained)
      have there := mixable.inRange block isInput
      rwa [isMost.trans isLargest.symm] at there

theorem sample?_addScaled (sum : AudioBlock) {source : AudioBlock} (whole : source.Whole)
    (gain : Float32) {ch n : Nat} :
    (addScaled sum source gain).sample? ch n =
      (sum.sample? ch n).map fun old => withSample old (some source) gain ch n := by
  rw [addScaled, AudioBlock.sample?_modifyChannels]
  congr 1
  funext old
  by_cases inside : ch < source.channels ∧ n < source.frames
  · obtain ⟨channelBelow, frameBelow⟩ := inside
    rw [if_pos channelBelow, if_pos frameBelow, withSample, Option.bind_some,
      source.sample?_eq_stored whole channelBelow channelBelow frameBelow]
  · have absent : source.sample? ch n = none := if_neg inside
    rw [withSample, Option.bind_some, absent]
    split
    · rename_i channelBelow
      exact if_neg fun frameBelow => inside ⟨channelBelow, frameBelow⟩
    · rfl

theorem addScaled_shape (sum source : AudioBlock) (gain : Float32) :
    (addScaled sum source gain).channels = sum.channels ∧
      (addScaled sum source gain).frames = sum.frames :=
  sum.modifyChannels_shape _ _

/-- Adding whole inputs keeps the shape of a buffer and adds to every sample of it, input after
input. -/
theorem foldl_addScaled {inputs : List (Option AudioBlock × Float32)}
    (whole : ∀ block ∈ inputs.filterMap (·.1), block.Whole) (start : AudioBlock) :
    let sum := inputs.foldl (fun sum (block, gain) =>
      match block with
      | some source => addScaled sum source gain
      | none => sum) start
    sum.channels = start.channels ∧ sum.frames = start.frames ∧
      ∀ ch n, sum.sample? ch n = (start.sample? ch n).map fun old =>
        inputs.foldl (fun sum (block, gain) => withSample sum block gain ch n) old := by
  induction inputs generalizing start with
  | nil => exact ⟨rfl, rfl, fun ch n => Option.map_id'.symm⟩
  | cons input rest inductionHypothesis =>
      obtain ⟨source?, gain⟩ := input
      cases source? with
      | none => exact inductionHypothesis whole start
      | some source =>
          obtain ⟨sourceWhole, restWhole⟩ := List.forall_mem_cons.mp whole
          obtain ⟨channels, frames, samples⟩ :=
            inductionHypothesis restWhole (addScaled start source gain)
          obtain ⟨sameChannels, sameFrames⟩ := addScaled_shape start source gain
          refine ⟨channels.trans sameChannels, frames.trans sameFrames, fun ch n => ?_⟩
          refine (samples ch n).trans ?_
          rw [sample?_addScaled start sourceWhole, Option.map_map]
          rfl

section

variable {inputs : List (Option AudioBlock × Float32)} (mixable : Mixable inputs)
include mixable

theorem mixInto_shape (buffer : AudioBlock) :
    (mixInto buffer inputs).channels = largest (·.channels) (inputs.filterMap (·.1)) ∧
      (mixInto buffer inputs).frames = largest (·.frames) (inputs.filterMap (·.1)) := by
  obtain ⟨channels, frames, -⟩ := foldl_addScaled mixable.whole (silenced buffer inputs)
  exact ⟨channels.trans (silenced_channels buffer inputs),
    frames.trans (silenced_frames buffer inputs)⟩

/-- A mixed block has the sum of the scaled samples of its inputs at every place that it has. -/
theorem sample?_mixInto (buffer : AudioBlock) {ch n : Nat}
    (channelBelow : ch < (mixInto buffer inputs).channels)
    (frameBelow : n < (mixInto buffer inputs).frames) :
    (mixInto buffer inputs).sample? ch n =
      some (inputs.foldl (fun sum (block, gain) => withSample sum block gain ch n) 0) := by
  obtain ⟨channels, frames, samples⟩ := foldl_addScaled mixable.whole (silenced buffer inputs)
  have silent : (silenced buffer inputs).sample? ch n = some 0 :=
    AudioBlock.sample?_clear_of_lt _ (mixable.whole_silenced buffer) (channels ▸ channelBelow)
      (frames ▸ frameBelow)
  refine (samples ch n).trans ?_
  rw [silent, Option.map_some]

/-- Nothing of the buffer remains in what is mixed in it. -/
theorem mixInto_congr (buffer other : AudioBlock) :
    mixInto other inputs = mixInto buffer inputs := by
  obtain ⟨channels, frames⟩ := mixInto_shape mixable buffer
  obtain ⟨otherChannels, otherFrames⟩ := mixInto_shape mixable other
  have sameChannels := otherChannels.trans channels.symm
  have sameFrames := otherFrames.trans frames.symm
  apply AudioBlock.eq_of_samples sameChannels sameFrames
  intro ch channelBelow n frameBelow
  rw [sample?_mixInto mixable other channelBelow frameBelow,
    sample?_mixInto mixable buffer (sameChannels ▸ channelBelow) (sameFrames ▸ frameBelow)]

end

/-- A block is the sum of two sources with gains: it has the larger of their shapes, and at each
of its places the scaled samples of those sources that have one there, added in order. -/
structure IsSum (first second : Option AudioBlock) (firstGain secondGain : Float32)
    (sum : AudioBlock) : Prop where
  channels_eq : sum.channels = max (first.elim 0 (·.channels)) (second.elim 0 (·.channels))
  frames_eq : sum.frames = max (first.elim 0 (·.frames)) (second.elim 0 (·.frames))
  sample?_eq : ∀ ch < sum.channels, ∀ n < sum.frames, sum.sample? ch n =
    some (withSample (withSample 0 first firstGain ch n) second secondGain ch n)

theorem foldl_max_of_two (f : AudioBlock → Nat) (first second : Option AudioBlock × Float32) :
    (([first, second].filterMap (·.1)).map f).foldl max 0 =
      max (first.1.elim 0 f) (second.1.elim 0 f) := by
  obtain ⟨first?, firstGain⟩ := first
  obtain ⟨second?, secondGain⟩ := second
  cases first? <;> cases second? <;> simp

theorem isSum_mixInto (buffer : AudioBlock) {first second : Option AudioBlock}
    {firstGain secondGain : Float32}
    (mixable : Mixable [(first, firstGain), (second, secondGain)]) :
    IsSum first second firstGain secondGain
      (mixInto buffer [(first, firstGain), (second, secondGain)]) := by
  obtain ⟨channels, frames⟩ := mixInto_shape mixable buffer
  exact ⟨channels.trans (foldl_max_of_two _ _ _), frames.trans (foldl_max_of_two _ _ _),
    fun ch channelBelow n frameBelow => sample?_mixInto mixable buffer channelBelow frameBelow⟩

section

variable {bank : Bank} {out : Nat} {old : AudioBlock} (found : bank.audio? out = some old)
include found

theorem get?_of_audio? : bank.get? out 0 = some (.audio old) := by
  unfold Bank.audio? at found
  split at found
  · rename_i held isAudio
    cases found
    exact isAudio
  · cases found

theorem audio?_setAudio (block : AudioBlock) (var : Nat) :
    (bank.setAudio out block).audio? var = if out = var then some block else bank.audio? var := by
  have here := get?_of_audio? found
  unfold Bank.audio? Bank.setAudio
  rw [Bank.get?_set]
  by_cases same : out = var
  · subst same
    simp [here]
  · simp [same]

/-- A block shows no number, so another block in its place changes none. -/
theorem number_setAudio (block : AudioBlock) (var : Nat) :
    (bank.setAudio out block).number var 0 = bank.number var 0 := by
  have here := get?_of_audio? found
  unfold Bank.number Bank.setAudio
  rw [Bank.get?_set]
  by_cases same : out = var
  · subst same
    simp [here, Value.number?]
  · simp [same]

end

theorem setAudio_setAudio (bank : Bank) (out : Nat) (first second : AudioBlock) :
    (bank.setAudio out first).setAudio out second = bank.setAudio out second := by
  apply Bank.eq_of_shape
  · simp only [Bank.setAudio, Bank.shape_set]
  · intro var ch
    simp only [Bank.setAudio, Bank.get?_set]
    split
    · rw [Option.map_map]
      rfl
    · rfl

/-- The inputs of a mixer, with their gains. -/
def mixInputs (input₀ input₁ gain₀ gain₁ : Nat) (bank : Bank) :
    List (Option AudioBlock × Float32) :=
  [(bank.audio? input₀, Number.narrow (bank.number gain₀ 0)),
    (bank.audio? input₁, Number.narrow (bank.number gain₁ 0))]

section

variable {input₀ input₁ gain₀ gain₁ out : Nat} {bank : Bank} {context : CycleContext}
  {device : Option Device}

theorem mixable_iff (buffer : AudioBlock) :
    (∀ span ∈ spans (.audioMix input₀ input₁ gain₀ gain₁ out buffer) bank context device,
        span.InRange) ↔
      Mixable (mixInputs input₀ input₁ gain₀ gain₁ bank) := by
  constructor
  · intro inRange
    have both := fun block isInput => List.forall_mem_cons.mp fun span listed =>
      inRange span (List.mem_flatMap.mpr ⟨block, isInput, listed⟩)
    exact ⟨fun block isInput => (both block isInput).2 _ List.mem_cons_self,
      fun block isInput => (both block isInput).1⟩
  · rintro ⟨whole, inRange⟩ span member
    obtain ⟨block, isInput, listed⟩ := List.mem_flatMap.mp member
    rcases List.mem_cons.mp listed with rfl | read
    · exact inRange block isInput
    · rw [List.mem_singleton.mp read]
      exact whole block isInput

theorem step_audioMix (mixable : Mixable (mixInputs input₀ input₁ gain₀ gain₁ bank))
    {old : AudioBlock} (found : bank.audio? out = some old) (buffer : AudioBlock) :
    step (.audioMix input₀ input₁ gain₀ gain₁ out buffer) bank context device =
      ⟨.audioMix input₀ input₁ gain₀ gain₁ out
          (mixInto buffer (mixInputs input₀ input₁ gain₀ gain₁ bank)),
        bank.setAudio out (mixInto buffer (mixInputs input₀ input₁ gain₀ gain₁ bank)), device,
        context, .ok .proceed⟩ := by
  rw [step_of_inRange ((mixable_iff buffer).mpr mixable)]
  simp only [process, stepAudioMix, found, AudioBlock.copyFrom_eq]
  rfl

theorem step_audioMix_of_none (mixable : Mixable (mixInputs input₀ input₁ gain₀ gain₁ bank))
    (absent : bank.audio? out = none) (buffer : AudioBlock) :
    step (.audioMix input₀ input₁ gain₀ gain₁ out buffer) bank context device =
      ⟨.audioMix input₀ input₁ gain₀ gain₁ out
          (mixInto buffer (mixInputs input₀ input₁ gain₀ gain₁ bank)),
        bank, device, context, .error .outNotAudio⟩ := by
  rw [step_of_inRange ((mixable_iff buffer).mpr mixable)]
  simp only [process, stepAudioMix, absent]
  rfl

theorem exists_step_audioMix_iff (buffer : AudioBlock) :
    (∃ status, (step (.audioMix input₀ input₁ gain₀ gain₁ out buffer) bank context
        device).outcome = .ok status) ↔
      (∃ old, bank.audio? out = some old) ∧
        Mixable (mixInputs input₀ input₁ gain₀ gain₁ bank) := by
  constructor
  · rintro ⟨status, done⟩
    have mixable := (mixable_iff buffer).mp (inRange_of_step done)
    refine ⟨?_, mixable⟩
    cases found : bank.audio? out with
    | none =>
        rw [step_audioMix_of_none mixable found] at done
        cases done
    | some old => exact ⟨old, rfl⟩
  · rintro ⟨⟨old, found⟩, mixable⟩
    exact ⟨.proceed, by rw [step_audioMix mixable found]⟩

/-- The loops of a mixer go by the shapes of the inputs, so they run out of a block with every
buffer or with none, and in that case nothing of the buffer is left. -/
theorem step_audioMix_congr (buffer kept : AudioBlock) :
    (∃ fault, ∀ held ∈ [kept, buffer],
        (step (.audioMix input₀ input₁ gain₀ gain₁ out held) bank context device).outcome =
          .error (.overrun fault)) ∨
      step (.audioMix input₀ input₁ gain₀ gain₁ out kept) bank context device =
        step (.audioMix input₀ input₁ gain₀ gain₁ out buffer) bank context device := by
  cases first : Span.firstOverrun? (spans (.audioMix input₀ input₁ gain₀ gain₁ out buffer) bank
      context device) with
  | some fault =>
      refine .inl ⟨fault, fun held _ => ?_⟩
      have same : Span.firstOverrun? (spans (.audioMix input₀ input₁ gain₀ gain₁ out held) bank
        context device) = some fault := first
      rw [step, same]
  | none =>
      have mixable := (mixable_iff buffer).mp (Span.firstOverrun?_eq_none.mp first)
      right
      cases found : bank.audio? out with
      | none =>
          rw [step_audioMix_of_none mixable found, step_audioMix_of_none mixable found,
            mixInto_congr mixable buffer kept]
      | some old =>
          rw [step_audioMix mixable found, step_audioMix mixable found,
            mixInto_congr mixable buffer kept]

end

/-- A mixer steps successfully exactly if its output is an audio variable and the samples that it
goes through are there. What it kept in its buffer has no influence on any step that does not end
the program. A successful step leaves everything but the output and the buffer as it was, and both
then hold the sum of the inputs. What was in an output that is no input has no influence on this
either. -/
theorem mix_step_sums (input₀ input₁ gain₀ gain₁ out : Nat) (bank : Bank) (context : CycleContext)
    (device : Option Device) (buffer : AudioBlock) :
    ((∃ status, (step (.audioMix input₀ input₁ gain₀ gain₁ out buffer) bank context
          device).outcome = .ok status) ↔
        (∃ old, bank.audio? out = some old) ∧
          Mixable (mixInputs input₀ input₁ gain₀ gain₁ bank)) ∧
      (∀ kept, (∃ fault, ∀ held ∈ [kept, buffer],
            (step (.audioMix input₀ input₁ gain₀ gain₁ out held) bank context device).outcome =
              .error (.overrun fault)) ∨
          step (.audioMix input₀ input₁ gain₀ gain₁ out kept) bank context device =
            step (.audioMix input₀ input₁ gain₀ gain₁ out buffer) bank context device) ∧
      ∀ status, (step (.audioMix input₀ input₁ gain₀ gain₁ out buffer) bank context
          device).outcome = .ok status → ∃ sum stored,
        step (.audioMix input₀ input₁ gain₀ gain₁ out buffer) bank context device =
            ⟨.audioMix input₀ input₁ gain₀ gain₁ out sum, stored, device, context, .ok .proceed⟩ ∧
          IsSum (bank.audio? input₀) (bank.audio? input₁) (Number.narrow (bank.number gain₀ 0))
            (Number.narrow (bank.number gain₁ 0)) sum ∧
          stored.audio? out = some sum ∧ stored.shape = bank.shape ∧
          (∀ var ch, (var, ch) ≠ (out, 0) → stored.get? var ch = bank.get? var ch) ∧
          (out ≠ input₀ → out ≠ input₁ → ∀ before,
            step (.audioMix input₀ input₁ gain₀ gain₁ out buffer) (bank.setAudio out before)
                context device =
              step (.audioMix input₀ input₁ gain₀ gain₁ out buffer) bank context device) := by
  refine ⟨exists_step_audioMix_iff buffer, step_audioMix_congr buffer, ?_⟩
  intro status done
  obtain ⟨⟨old, found⟩, mixable⟩ := (exists_step_audioMix_iff buffer).mp ⟨status, done⟩
  have stepped : step (.audioMix input₀ input₁ gain₀ gain₁ out buffer) bank context device = _ :=
    step_audioMix mixable found buffer
  refine ⟨_, _, stepped, isSum_mixInto buffer mixable, ?_, bank.shape_set _ _ _, ?_, ?_⟩
  · rw [audio?_setAudio found, if_pos rfl]
  · intro var ch elsewhere
    rw [Bank.setAudio, Bank.get?_set, if_neg]
    rintro ⟨rfl, rfl⟩
    exact elsewhere rfl
  · intro notFirst notSecond before
    have there : (bank.setAudio out before).audio? out = some before := by
      rw [audio?_setAudio found, if_pos rfl]
    have sameInputs : mixInputs input₀ input₁ gain₀ gain₁ (bank.setAudio out before) =
        mixInputs input₀ input₁ gain₀ gain₁ bank := by
      simp only [mixInputs, audio?_setAudio found, number_setAudio found, if_neg notFirst,
        if_neg notSecond]
    rw [step_audioMix (sameInputs ▸ mixable) there, stepped, sameInputs, setAudio_setAudio]

/-- Two blocks that overlap at one place are summed there, one of them sounds alone where the other
has ended, and a kept buffer of the very shape of the sum leaves nothing where both have. -/
theorem remainders_cleared :
    ∃ sum, (step (.audioMix 0 1 2 3 4 (.tabulate 2 2 fun _ _ => 7)) Stale.bank ⟨.standard, 0⟩
        none).bank.audio? 4 = some sum ∧
      sum.channels = 2 ∧ sum.frames = 2 ∧ sum.sample? 0 0 = some 6.5 ∧
        sum.sample? 0 1 = some 0.25 ∧ sum.sample? 1 0 = some 6 ∧ sum.sample? 1 1 = some 0 := by
  obtain ⟨-, -, summed⟩ :=
    mix_step_sums 0 1 2 3 4 Stale.bank ⟨.standard, 0⟩ none (.tabulate 2 2 fun _ _ => 7)
  obtain ⟨sum, stored, stepped, isSum, shown, -⟩ := summed .proceed rfl
  have channels : sum.channels = 2 := isSum.channels_eq
  have frames : sum.frames = 2 := isSum.frames_eq
  have sample := fun ch channelBelow n frameBelow =>
    isSum.sample?_eq ch (channels ▸ channelBelow) n (frames ▸ frameBelow)
  refine ⟨sum, ?_, channels, frames, ?_, ?_, ?_, ?_⟩
  · rw [stepped]
    exact shown
  · exact (sample 0 (by decide) 0 (by decide)).trans (by decide +kernel)
  · exact (sample 0 (by decide) 1 (by decide)).trans (by decide +kernel)
  · exact (sample 1 (by decide) 0 (by decide)).trans (by decide +kernel)
  · exact (sample 1 (by decide) 1 (by decide)).trans (by decide +kernel)

end SignalNet.Builtin
