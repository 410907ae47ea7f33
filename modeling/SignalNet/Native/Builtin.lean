import SignalNet.Native.Processor

/-!
Contract: the seven native classes that come with the library.

A processor remembers the positions of the variables it uses. Classes with a gain
move linearly over one block from the gain of the last block to the present one.

Owns: the processors, their steps, and their creation. The descriptions of their
variables live in `SignalNet.Native.Descriptions`.
-/

set_option autoImplicit false

namespace SignalNet

/-- The processors of the built-in classes. -/
inductive Builtin where
  /-- Emits its value. -/
  | number (value out : Nat)
  /-- Adds its increment, and ends the stream at a positive limit. -/
  | counter (increment limit out : Nat)
  /-- A sine oscillator. -/
  | sineTone (frequency gain out : Nat) (phase : Float) (lastGain : Option Float32)
  /-- Scales its input. -/
  | audioGain (input gain out : Nat) (lastGain : Option Float32)
  /-- Sums two scaled inputs in a buffer that it keeps from cycle to cycle. -/
  | audioMix (input₀ input₁ gain₀ gain₁ out : Nat) (buffer : AudioBlock)
  /-- Reads an audio device. -/
  | audioIn (out : Nat)
  /-- Writes an audio device. -/
  | audioOut (input : Nat)
deriving DecidableEq, Inhabited

namespace Builtin

/-- One full turn in radians. -/
def turn : Float := 6.283185307179586

/-- The gain of frame `n`, counted from zero, of a block that ends at the target. -/
def rampGain (last : Option Float32) (target : Float32) (frames n : Nat) : Float32 :=
  let start := last.getD target
  let increment := if frames = 0 then 0 else (target - start) / Float32.ofNat frames
  start + increment * Float32.ofNat (n + 1)

/-- The phases of `count` frames and the phase behind them. -/
def phases (increment : Float) : Nat → Float → List Float × Float
  | 0, phase => ([], phase)
  | count + 1, phase =>
      let (rest, last) := phases increment count (Number.remainder (phase + increment) turn)
      (phase :: rest, last)

/-- The channels that an oscillator sounds with: those of its output, and at least one if the
output gets another shape. -/
def soundingChannels (block : AudioBlock) (frames : Nat) : Nat :=
  if block.frames = frames then block.channels else max block.channels 1

/-- The step of the sine oscillator. Every channel gets the same samples. -/
def stepSineTone (frequency gain out : Nat) (phase : Float) (last : Option Float32)
    (bank : Bank) (timing : Timing) : Builtin × Bank × Except NativeError StepStatus :=
  let increment := turn * bank.number frequency 0 / timing.sampleRate
  let target := Number.narrow (bank.number gain 0)
  let frames := timing.framesPerCycle
  match bank.audio? out with
  | none => (.sineTone frequency gain out phase last, bank, .error .outNotAudio)
  | some block =>
      let (positions, next) := phases increment frames phase
      let samples := (positions.mapIdx fun n position =>
        rampGain last target frames n * Number.narrow position.sin).toArray
      let sounding := AudioBlock.tabulate (soundingChannels block frames) frames fun _ n =>
        samples.getD n 0
      (.sineTone frequency gain out next (some target), bank.setAudio out sounding,
        .ok .proceed)

def stepAudioGain (input gain out : Nat) (last : Option Float32) (bank : Bank) :
    Builtin × Bank × Except NativeError StepStatus :=
  let target := Number.narrow (bank.number gain 0)
  match bank.audioPair? input out with
  | none => (.audioGain input gain out last, bank, .error .pairNotAudio)
  | some (source, _) =>
      let scaled := source.update fun _ n sample =>
        sample * rampGain last target source.frames n
      (.audioGain input gain out (some target), bank.setAudio out scaled, .ok .proceed)

/-- Add the scaled samples of a block, channel by channel, where both blocks have frames. -/
def addScaled (sum source : AudioBlock) (gain : Float32) : AudioBlock :=
  sum.modifyChannels source.channels fun ch n old =>
    if n < source.frames then old + source.stored ch n * gain else old

/-- The largest measure of some blocks, zero if there are none. -/
def largest (measure : AudioBlock → Nat) (blocks : List AudioBlock) : Nat :=
  (blocks.map measure).foldl max 0

/-- The buffer of a mix before the first input: silent, in the largest of their shapes. -/
def silenced (buffer : AudioBlock) (inputs : List (Option AudioBlock × Float32)) : AudioBlock :=
  let blocks := inputs.filterMap (·.1)
  (buffer.reshape (largest (·.channels) blocks) (largest (·.frames) blocks)).clear

/-- Sum up some inputs, each with its gain, in a buffer. -/
def mixInto (buffer : AudioBlock) (inputs : List (Option AudioBlock × Float32)) : AudioBlock :=
  inputs.foldl (fun sum (block, gain) =>
    match block with
    | some source => addScaled sum source gain
    | none => sum) (silenced buffer inputs)

def stepAudioMix (input₀ input₁ gain₀ gain₁ out : Nat) (buffer : AudioBlock) (bank : Bank) :
    Builtin × Bank × Except NativeError StepStatus :=
  let mixed := mixInto buffer [(bank.audio? input₀, Number.narrow (bank.number gain₀ 0)),
    (bank.audio? input₁, Number.narrow (bank.number gain₁ 0))]
  let processor := Builtin.audioMix input₀ input₁ gain₀ gain₁ out mixed
  match bank.audio? out with
  | none => (processor, bank, .error .outNotAudio)
  | some block => (processor, bank.setAudio out (block.copyFrom mixed), .ok .proceed)

def stepCounter (increment limit out : Nat) (bank : Bank) :
    Bank × Except NativeError StepStatus :=
  let count := bank.number out 0 + bank.number increment 0
  match bank.store out count with
  | .error fault => (bank, .error fault)
  | .ok bank =>
      let bound := bank.number limit 0
      (bank, .ok (if 0 < bound ∧ bound ≤ count then .endOfStream else .proceed))

/-- What a source gives to one frame of a channel with some frames. A channel that the source
does not have, and the end of one that is longer there, is silent. -/
def playedSample (source : Option AudioBlock) (frames ch n : Nat) : Float32 :=
  match source.filter (ch < ·.channels) with
  | some block => if n < min frames block.frames then block.stored ch n else 0
  | none => 0

/-- Copy a source to an output device, channel by channel. The device keeps its shape. -/
def play (source : Option AudioBlock) (sink : AudioBlock) : AudioBlock :=
  sink.modifyChannels sink.channels fun ch n _ => playedSample source sink.frames ch n

/-- The channels that the loops of a step go through. An output that takes over the shape of its
source is not listed beside it. -/
def spans (processor : Builtin) (bank : Bank) (context : CycleContext)
    (device : Option Device) : List Span :=
  match processor with
  | .number .. | .counter .. | .audioIn .. => []
  | .sineTone _ _ out _ _ =>
      match bank.audio? out with
      | none => []
      | some block =>
          let frames := context.timing.framesPerCycle
          let channels := soundingChannels block frames
          [⟨channels, frames, channels⟩]
  | .audioGain input _ out _ =>
      match bank.audioPair? input out with
      | none => []
      | some (source, _) => [source.span source.channels]
  | .audioMix input₀ input₁ _ _ _ _ =>
      let sources := [bank.audio? input₀, bank.audio? input₁].filterMap id
      sources.flatMap fun source =>
        [⟨largest (·.channels) sources, largest (·.frames) sources, source.channels⟩,
          source.span source.channels]
  | .audioOut input =>
      match device.bind (·.audio?) with
      | none => []
      | some sink =>
          sink.span sink.channels :: (bank.audio? input).toList.map fun source =>
            source.span (min sink.channels source.channels)

/-- The step of a built-in class whose loops stay inside of their blocks. -/
def process (processor : Builtin) (bank : Bank) (context : CycleContext)
    (device : Option Device) : StepResult Builtin :=
  match processor with
  | .number value out =>
      match bank.store out (bank.number value 0) with
      | .ok stored => ⟨processor, stored, device, context, .ok .proceed⟩
      | .error fault => ⟨processor, bank, device, context, .error fault⟩
  | .counter increment limit out =>
      let (bank, outcome) := stepCounter increment limit out bank
      ⟨processor, bank, device, context, outcome⟩
  | .sineTone frequency gain out phase last =>
      let (processor, bank, outcome) :=
        stepSineTone frequency gain out phase last bank context.timing
      ⟨processor, bank, device, context, outcome⟩
  | .audioGain input gain out last =>
      let (processor, bank, outcome) := stepAudioGain input gain out last bank
      ⟨processor, bank, device, context, outcome⟩
  | .audioMix input₀ input₁ gain₀ gain₁ out buffer =>
      let (processor, bank, outcome) := stepAudioMix input₀ input₁ gain₀ gain₁ out buffer bank
      ⟨processor, bank, device, context, outcome⟩
  | .audioIn out =>
      match device.bind (·.audio?) with
      | none => ⟨processor, bank, device, context, .error .inputDeviceMissing⟩
      | some source =>
          match bank.audio? out with
          | none => ⟨processor, bank, device, context, .ok .proceed⟩
          | some block =>
              ⟨processor, bank.setAudio out (block.copyFrom source), device, context, .ok .proceed⟩
  | .audioOut input =>
      match device.bind (·.audio?) with
      | none => ⟨processor, bank, device, context, .error .outputDeviceMissing⟩
      | some _ =>
          ⟨processor, bank, device.map (·.mapAudio (play (bank.audio? input))), context,
            .ok .proceed⟩

/-- The step of every built-in class. It ends where a loop runs out of a block. -/
def step (processor : Builtin) (bank : Bank) (context : CycleContext)
    (device : Option Device) : StepResult Builtin :=
  match Span.firstOverrun? (processor.spans bank context device) with
  | some fault => ⟨processor, bank, device, context, .error (.overrun fault)⟩
  | none => processor.process bank context device

instance : Processor Builtin where
  step := step
  notify processor _ _ := processor

/-- The audio of a bound device of the right direction. -/
def boundAudio (context : CreateContext) (direction : Direction) :
    Except NativeError AudioBlock :=
  match context.device with
  | none => .error .noDevice
  | some device =>
      if device.direction ≠ direction then
        .error (.wrongDirection device.label device.direction)
      else match device.audio? with
        | none => .error (.notAudioDevice device.label)
        | some block => .ok block

/-- A class that needs no device. -/
def free (create : CreateContext → Bank → Except NativeError (Builtin × Bank)) :
    NativeClass Builtin :=
  ⟨none, create⟩

/-- The class of constants. The value shows on the output at once. -/
def numberClass : NativeClass Builtin := free fun _ bank => do
  let value ← bank.require "value"
  let out ← bank.require "out"
  let bank ← bank.store out (bank.number value 0)
  return (.number value out, bank)

def counterClass : NativeClass Builtin := free fun _ bank => do
  let increment ← bank.require "inc"
  let limit ← bank.require "limit"
  let out ← bank.require "out"
  return (.counter increment limit out, bank)

/-- The class of sine oscillators. The channel count is read at creation, and is at
least one. -/
def sineToneClass : NativeClass Builtin := free fun context bank => do
  let count ← bank.require "ch_cnt"
  let out ← bank.require "out"
  let channels := max (Number.truncatedCount (bank.number count 0)) 1
  let frequency ← bank.require "freq"
  let gain ← bank.require "gain"
  return (.sineTone frequency gain out 0 none,
    bank.allocateAudio out channels context.timing.framesPerCycle)

def audioGainClass : NativeClass Builtin := free fun _ bank => do
  let input ← bank.require "in"
  let gain ← bank.require "gain"
  let out ← bank.require "out"
  return (.audioGain input gain out none, bank)

def audioMixClass : NativeClass Builtin := free fun _ bank => do
  let input₀ ← bank.require "in0"
  let input₁ ← bank.require "in1"
  let gain₀ ← bank.require "gain0"
  let gain₁ ← bank.require "gain1"
  let out ← bank.require "out"
  return (.audioMix input₀ input₁ gain₀ gain₁ out (.silent 0 0), bank)

def audioInClass : NativeClass Builtin where
  deviceKind := some .audio
  create context bank := do
    let block ← boundAudio context .input
    let out ← bank.require "out"
    return (.audioIn out, bank.allocateAudio out block.channels block.frames)

def audioOutClass : NativeClass Builtin where
  deviceKind := some .audio
  create context bank := do
    let _ ← boundAudio context .output
    let input ← bank.require "in"
    return (.audioOut input, bank)

end Builtin

end SignalNet
