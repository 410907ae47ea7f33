import SignalNet.Native.Builtin
import SignalNet.Proofs.Outcome
import SignalNet.Proofs.Value.Audio

/-!
Contract: the loops of native steps stay inside the blocks that they go through.

A step with audio runs over the channels of a block that it reads, and for every channel takes a
row there and the same row of the block that it writes. So the block that it writes has to have
all channels of what it reads: it is shaped like its source, or like the largest of several
sources, or its own channels decide. A loop thus never asks for a channel that a shape does not
have. It runs out of a block only if the size of the shape does not fit a word, and then the step
ends before it takes a row that is not there.

Owns: rows of blocks (`Row`), the rows that a built-in step takes (`Builtin.rows`), and that all of
them are there (`Builtin.rows_inRange`) unless the step says otherwise (`Builtin.step_overrun_iff`).
-/

set_option autoImplicit false

namespace SignalNet

/-- A loop over channels that there are stays inside of a block whose size fits a word. -/
theorem Span.inRange_of_lt {span : Span} (counted : span.count ≤ span.channels)
    (fits : span.channels * span.frames < UInt64.size) : span.InRange := by
  rw [InRange, roomFor_eq_iff.mpr fits]
  exact Nat.mul_le_mul_right span.frames counted

/-- The first samples of a channel, as a loop takes them out of the store of a block. -/
structure Row where
  block : AudioBlock
  ch : Nat
  count : Nat

/-- The store reaches to the end of the channel, and the channel to the end of the row. -/
structure Row.InRange (row : Row) : Prop where
  stored : (row.ch + 1) * row.block.frames ≤ row.block.samples.size
  short : row.count ≤ row.block.frames

theorem Row.inRange_of_lt {row : Row} {count : Nat} (inRange : (row.block.span count).InRange)
    (below : row.ch < count) (short : row.count ≤ row.block.frames) : row.InRange where
  stored :=
    Nat.le_trans (Nat.mul_le_mul_right row.block.frames below)
      (row.block.inRange_span.mp inRange)
  short := short

namespace Builtin

/-- What a loop over the channels of a source takes: rows of the source, and the same rows of the
block that is written. -/
def rowsAlong (source sink : AudioBlock) : List Row :=
  (List.range source.channels).flatMap fun ch =>
    [⟨source, ch, min source.frames sink.frames⟩, ⟨sink, ch, min source.frames sink.frames⟩]

/-- The rows that a step takes. An input device is not taken row by row: its store is copied as a
whole to one of the same size. -/
def rows (processor : Builtin) (bank : Bank) (context : CycleContext) (device : Option Device) :
    List Row :=
  match processor with
  | .number .. | .counter .. | .audioIn .. => []
  | .sineTone _ _ out _ _ =>
      match bank.audio? out with
      | none => []
      | some block =>
          let frames := context.timing.framesPerCycle
          let sounding :=
            if block.frames = frames then block else block.reshape (max block.channels 1) frames
          (List.range sounding.channels).map fun ch => ⟨sounding, ch, frames⟩
  | .audioGain input _ out _ =>
      match bank.audioPair? input out with
      | none => []
      | some (source, sink) => rowsAlong source (sink.reshape source.channels source.frames)
  | .audioMix input₀ input₁ gain₀ gain₁ _ buffer =>
      let inputs := [(bank.audio? input₀, Number.narrow (bank.number gain₀ 0)),
        (bank.audio? input₁, Number.narrow (bank.number gain₁ 0))]
      (inputs.filterMap (·.1)).flatMap (rowsAlong · (silenced buffer inputs))
  | .audioOut input =>
      match device.bind (·.audio?) with
      | none => []
      | some sink =>
          (List.range sink.channels).flatMap fun ch =>
            match (bank.audio? input).filter (ch < ·.channels) with
            | some source =>
                [⟨sink, ch, min sink.frames source.frames⟩,
                  ⟨source, ch, min sink.frames source.frames⟩]
            | none => [⟨sink, ch, sink.frames⟩]

/-! ## Rows in range -/

theorem largest_eq (measure : AudioBlock → Nat) (blocks : List AudioBlock) :
    largest measure blocks = (blocks.map measure).max?.getD 0 := by
  rw [largest, List.foldl_max, Nat.zero_max]

theorem le_largest (measure : AudioBlock → Nat) {blocks : List AudioBlock} {block : AudioBlock}
    (member : block ∈ blocks) : measure block ≤ largest measure blocks := by
  rw [largest_eq]
  exact List.le_max?_getD_of_mem (List.mem_map_of_mem member)

theorem silenced_channels (buffer : AudioBlock) (inputs : List (Option AudioBlock × Float32)) :
    (silenced buffer inputs).channels = largest (·.channels) (inputs.filterMap (·.1)) :=
  buffer.reshape_channels _ _

theorem silenced_frames (buffer : AudioBlock) (inputs : List (Option AudioBlock × Float32)) :
    (silenced buffer inputs).frames = largest (·.frames) (inputs.filterMap (·.1)) :=
  buffer.reshape_frames _ _

/-- No loop of a step asks for more channels than the block has by its shape. -/
theorem count_le_of_mem_spans (processor : Builtin) (bank : Bank) (context : CycleContext)
    (device : Option Device) :
    ∀ span ∈ processor.spans bank context device, span.count ≤ span.channels := by
  cases processor with
  | number value out => exact List.forall_mem_nil _
  | counter increment limit out => exact List.forall_mem_nil _
  | audioIn out => exact List.forall_mem_nil _
  | sineTone frequency gain out phase last =>
      dsimp only [spans]
      cases bank.audio? out with
      | none => exact List.forall_mem_nil _
      | some block => exact List.forall_mem_singleton.mpr (Nat.le_refl _)
  | audioGain input gain out last =>
      dsimp only [spans]
      cases bank.audioPair? input out with
      | none => exact List.forall_mem_nil _
      | some pair => exact List.forall_mem_singleton.mpr (Nat.le_refl _)
  | audioMix input₀ input₁ gain₀ gain₁ out buffer =>
      intro span member
      obtain ⟨source, isSource, taken⟩ := List.mem_flatMap.mp member
      rcases List.mem_cons.mp taken with rfl | read
      · exact le_largest (·.channels) isSource
      · rw [List.mem_singleton.mp read]
        exact Nat.le_refl _
  | audioOut input =>
      dsimp only [spans]
      cases device.bind (·.audio?) with
      | none => exact List.forall_mem_nil _
      | some sink =>
          refine List.forall_mem_cons.mpr ⟨Nat.le_refl _, fun span member => ?_⟩
          obtain ⟨source, -, rfl⟩ := List.mem_map.mp member
          exact Nat.min_le_right _ _

/-- A loop over the channels of a source stays inside of both blocks if these channels are there. -/
theorem rowsAlong_inRange {source sink : AudioBlock}
    (read : (source.span source.channels).InRange) (written : (sink.span source.channels).InRange) :
    ∀ row ∈ rowsAlong source sink, row.InRange := by
  intro row member
  obtain ⟨ch, isChannel, taken⟩ := List.mem_flatMap.mp member
  have below : ch < source.channels := List.mem_range.mp isChannel
  rcases List.mem_cons.mp taken with rfl | isWritten
  · exact Row.inRange_of_lt read below (Nat.min_le_left _ _)
  · rw [List.mem_singleton.mp isWritten]
    exact Row.inRange_of_lt written below (Nat.min_le_right _ _)

/-- A step whose loops stay inside of their blocks takes no row that is not there. -/
theorem rows_inRange (processor : Builtin) (bank : Bank) (context : CycleContext)
    (device : Option Device)
    (inRange : ∀ span ∈ processor.spans bank context device, span.InRange) :
    ∀ row ∈ processor.rows bank context device, row.InRange := by
  cases processor with
  | number value out => exact List.forall_mem_nil _
  | counter increment limit out => exact List.forall_mem_nil _
  | audioIn out => exact List.forall_mem_nil _
  | sineTone frequency gain out phase last =>
      dsimp only [spans] at inRange
      dsimp only [rows]
      cases found : bank.audio? out with
      | none => exact List.forall_mem_nil _
      | some block =>
          rw [found] at inRange
          dsimp only [soundingChannels] at inRange ⊢
          have there := List.forall_mem_singleton.mp inRange
          intro row member
          obtain ⟨ch, isChannel, rfl⟩ := List.mem_map.mp member
          have below := List.mem_range.mp isChannel
          -- the block has the frames of the cycle, before the loop or by its new shape
          by_cases sounds : block.frames = context.timing.framesPerCycle
          · simp only [if_pos sounds] at there below ⊢
            rw [← sounds] at there ⊢
            exact Row.inRange_of_lt there below (Nat.le_refl _)
          · simp only [if_neg sounds] at there below ⊢
            rw [AudioBlock.reshape_channels] at below
            refine Row.inRange_of_lt ?_ below (Nat.le_of_eq (block.reshape_frames _ _).symm)
            rw [AudioBlock.span, AudioBlock.reshape_channels, AudioBlock.reshape_frames]
            exact there
  | audioGain input gain out last =>
      dsimp only [spans] at inRange
      dsimp only [rows]
      cases found : bank.audioPair? input out with
      | none => exact List.forall_mem_nil _
      | some pair =>
          rw [found] at inRange
          have there := List.forall_mem_singleton.mp inRange
          refine rowsAlong_inRange there ?_
          rw [AudioBlock.span, AudioBlock.reshape_channels, AudioBlock.reshape_frames]
          exact there
  | audioMix input₀ input₁ gain₀ gain₁ out buffer =>
      intro row member
      obtain ⟨source, isInput, taken⟩ := List.mem_flatMap.mp member
      obtain ⟨written, others⟩ := List.forall_mem_cons.mp fun span listed =>
        inRange span (List.mem_flatMap.mpr ⟨source, isInput, listed⟩)
      refine rowsAlong_inRange (List.forall_mem_singleton.mp others) ?_ row taken
      rw [AudioBlock.span, silenced_channels, silenced_frames]
      exact written
  | audioOut input =>
      dsimp only [spans] at inRange
      dsimp only [rows]
      cases found : device.bind (·.audio?) with
      | none => exact List.forall_mem_nil _
      | some sink =>
          rw [found] at inRange
          obtain ⟨written, read⟩ := List.forall_mem_cons.mp inRange
          intro row member
          obtain ⟨ch, isChannel, taken⟩ := List.mem_flatMap.mp member
          have inSink := List.mem_range.mp isChannel
          cases kept : (bank.audio? input).filter (ch < ·.channels) with
          | none =>
              rw [kept] at taken
              rw [List.mem_singleton.mp taken]
              exact Row.inRange_of_lt written inSink (Nat.le_refl _)
          | some source =>
              rw [kept] at taken
              obtain ⟨isInput, isBelow⟩ := Option.filter_eq_some_iff.mp kept
              have inSource : ch < source.channels := of_decide_eq_true isBelow
              rcases List.mem_cons.mp taken with rfl | isRead
              · exact Row.inRange_of_lt written inSink (Nat.min_le_left _ _)
              · rw [List.mem_singleton.mp isRead]
                refine Row.inRange_of_lt (read _ (List.mem_map.mpr ⟨source, ?_, rfl⟩))
                  (Nat.lt_min.mpr ⟨inSink, inSource⟩) (Nat.min_le_right _ _)
                exact Option.mem_toList.mpr isInput

/-! ## Steps that run out of a block -/

/-- A step ends at the first loop that runs out of a block, or processes the cycle. -/
theorem step_cases (processor : Builtin) (bank : Bank) (context : CycleContext)
    (device : Option Device) :
    ((∃ span ∈ processor.spans bank context device, ¬ span.InRange) ∧
        ∃ fault, processor.step bank context device =
          ⟨processor, bank, device, context, .error (.overrun fault)⟩) ∨
      (∀ span ∈ processor.spans bank context device, span.InRange) ∧
        processor.step bank context device = processor.process bank context device := by
  unfold step
  cases first : Span.firstOverrun? (processor.spans bank context device) with
  | none => exact .inr ⟨Span.firstOverrun?_eq_none.mp first, rfl⟩
  | some fault =>
      obtain ⟨span, member, runsOut⟩ := List.exists_of_findSome?_eq_some first
      refine .inl ⟨⟨span, member, fun inRange => ?_⟩, fault, rfl⟩
      rw [Span.overrun?, if_pos inRange] at runsOut
      cases runsOut

/-- Nothing but a loop that runs out of a block ends a step in this way. -/
theorem process_ne_overrun (processor : Builtin) (bank : Bank) (context : CycleContext)
    (device : Option Device) (fault : Overrun) :
    (processor.process bank context device).outcome ≠ .error (.overrun fault) := by
  have stores (var : Nat) (x : Float) : bank.store var x ≠ .error (.overrun fault) := by
    intro refused
    obtain ⟨other, -, isOther⟩ := mapError_eq_error.mp refused
    cases isOther
  cases processor with
  | number value out =>
      dsimp only [process]
      split
      · nofun
      · rename_i refused
        intro same
        cases same
        exact stores _ _ refused
  | counter increment limit out =>
      dsimp only [process, stepCounter]
      split
      · rename_i refused
        intro same
        cases same
        exact stores _ _ refused
      · nofun
  | sineTone frequency gain out phase last =>
      dsimp only [process, stepSineTone]
      cases bank.audio? out <;> nofun
  | audioGain input gain out last =>
      dsimp only [process, stepAudioGain]
      cases bank.audioPair? input out <;> nofun
  | audioMix input₀ input₁ gain₀ gain₁ out buffer =>
      dsimp only [process, stepAudioMix]
      cases bank.audio? out <;> nofun
  | audioIn out =>
      dsimp only [process]
      cases device.bind (·.audio?) with
      | none => nofun
      | some source => cases bank.audio? out <;> nofun
  | audioOut input =>
      dsimp only [process]
      cases device.bind (·.audio?) <;> nofun

/-- A step runs out of a block exactly if one of its loops does. -/
theorem step_overrun_iff (processor : Builtin) (bank : Bank) (context : CycleContext)
    (device : Option Device) :
    (∃ fault, (processor.step bank context device).outcome = .error (.overrun fault)) ↔
      ∃ span ∈ processor.spans bank context device, ¬ span.InRange := by
  rcases processor.step_cases bank context device with
    ⟨runsOut, fault, ended⟩ | ⟨inRange, processed⟩
  · exact iff_of_true ⟨fault, congrArg StepResult.outcome ended⟩ runsOut
  · refine iff_of_false ?_ fun ⟨span, member, runsOut⟩ => runsOut (inRange span member)
    rintro ⟨fault, ended⟩
    rw [processed] at ended
    exact processor.process_ne_overrun bank context device fault ended

theorem step_of_inRange {processor : Builtin} {bank : Bank} {context : CycleContext}
    {device : Option Device}
    (inRange : ∀ span ∈ processor.spans bank context device, span.InRange) :
    processor.step bank context device = processor.process bank context device := by
  rcases processor.step_cases bank context device with ⟨⟨span, member, runsOut⟩, -⟩ | ⟨-, processed⟩
  · exact absurd (inRange span member) runsOut
  · exact processed

theorem inRange_of_step {processor : Builtin} {bank : Bank} {context : CycleContext}
    {device : Option Device} {status : StepStatus}
    (done : (processor.step bank context device).outcome = .ok status) :
    ∀ span ∈ processor.spans bank context device, span.InRange := by
  rcases processor.step_cases bank context device with ⟨-, fault, ended⟩ | ⟨inRange, -⟩
  · rw [ended] at done
    cases done
  · exact inRange

/-- Where the sizes of all shapes fit a word, a step does not run out of a block, and takes no row
that is not there. -/
theorem inRange_of_fits (processor : Builtin) (bank : Bank) (context : CycleContext)
    (device : Option Device)
    (fits : ∀ span ∈ processor.spans bank context device,
      span.channels * span.frames < UInt64.size) :
    (∀ fault, (processor.step bank context device).outcome ≠ .error (.overrun fault)) ∧
      ∀ row ∈ processor.rows bank context device, row.InRange := by
  have inRange : ∀ span ∈ processor.spans bank context device, span.InRange :=
    fun span member => Span.inRange_of_lt
      (processor.count_le_of_mem_spans bank context device span member) (fits span member)
  refine ⟨fun fault ended => ?_, processor.rows_inRange bank context device inRange⟩
  obtain ⟨span, member, runsOut⟩ := (processor.step_overrun_iff bank context device).mp
    ⟨fault, ended⟩
  exact runsOut (inRange span member)

end Builtin

end SignalNet
