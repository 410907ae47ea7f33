/-!
Contract: blocks of audio.

A block holds a fixed number of channels with a fixed number of frames each. Its
samples are stored channel after channel. The size of the store is the product of
channels and frames in machine words, so it is that of the shape exactly if the
product fits a word. Where it does not, the store is shorter, and a loop over channels
runs beyond its end.

Owns: shapes, samples, the operations that work sample by sample, and the channels
that a loop asks a store for (`Span`).
-/

set_option autoImplicit false

namespace SignalNet

/-- The size of a store for a shape: a product of 64-bit words, which wraps. -/
def roomFor (channels frames : Nat) : Nat := channels * frames % UInt64.size

theorem roomFor_le (channels frames : Nat) : roomFor channels frames ≤ channels * frames :=
  Nat.mod_le _ _

theorem roomFor_eq_iff {channels frames : Nat} :
    roomFor channels frames = channels * frames ↔ channels * frames < UInt64.size :=
  Nat.mod_eq_iff_lt (by decide)

/-- A block of audio: `channels` planes of `frames` samples, as far as there is room for them. -/
structure AudioBlock where
  channels : Nat
  frames : Nat
  samples : Array Float32
  size_eq : samples.size = roomFor channels frames
deriving DecidableEq

namespace AudioBlock

/-- The block whose sample in channel `ch` and frame `n` is `sample ch n`. -/
def tabulate (channels frames : Nat) (sample : Nat → Nat → Float32) : AudioBlock where
  channels
  frames
  samples := Array.ofFn fun position : Fin (roomFor channels frames) =>
    sample (position / frames) (position % frames)
  size_eq := by simp

def silent (channels frames : Nat) : AudioBlock :=
  tabulate channels frames fun _ _ => 0

instance : Inhabited AudioBlock := ⟨silent 0 0⟩

/-- The sample of a channel in a frame, if the block has both and the store reaches there. -/
def sample? (block : AudioBlock) (ch n : Nat) : Option Float32 :=
  if ch < block.channels ∧ n < block.frames then block.samples[ch * block.frames + n]?
  else none

/-- The sample of a channel in a frame, zero outside the block. -/
def sampleD (block : AudioBlock) (ch n : Nat) : Float32 := (block.sample? ch n).getD 0

/-- What the store holds at the address of a place. Beyond the frames of the channel that is
a sample of another channel. -/
def stored (block : AudioBlock) (ch n : Nat) : Float32 :=
  block.samples.getD (ch * block.frames + n) 0

/-- The samples of one channel; none if the block has no such channel, or not all of it. -/
def channel? (block : AudioBlock) (ch : Nat) : Option (List Float32) :=
  if ch < block.channels ∧ (ch + 1) * block.frames ≤ block.samples.size then
    some ((block.samples.extract (ch * block.frames) ((ch + 1) * block.frames)).toList)
  else none

/-- Change the samples at consecutive addresses in turn, each by its distance to the first. -/
def modifyRun (samples : Array Float32) (start count : Nat) (f : Nat → Float32 → Float32) :
    Array Float32 :=
  (List.range count).foldl (fun samples n => samples.modify (start + n) (f n)) samples

theorem size_modifyRun (samples : Array Float32) (start count : Nat)
    (f : Nat → Float32 → Float32) : (modifyRun samples start count f).size = samples.size := by
  induction count with
  | zero => rfl
  | succ count inductionHypothesis =>
      rw [modifyRun, List.range_succ, List.foldl_append]
      exact (Array.size_modify ..).trans inductionHypothesis

/-- Change the samples of one channel in turn. -/
def modifyChannel (block : AudioBlock) (ch : Nat) (f : Nat → Float32 → Float32) : AudioBlock where
  channels := block.channels
  frames := block.frames
  samples := modifyRun block.samples (ch * block.frames) block.frames f
  size_eq := (size_modifyRun ..).trans block.size_eq

/-- Change the samples of the first channels, channel by channel. -/
def modifyChannels (block : AudioBlock) (count : Nat) (f : Nat → Nat → Float32 → Float32) :
    AudioBlock :=
  (List.range count).foldl (fun block ch => block.modifyChannel ch (f ch)) block

/-- Replace every sample by a function of its channel, its frame and itself. -/
def update (block : AudioBlock) (f : Nat → Nat → Float32 → Float32) : AudioBlock where
  channels := block.channels
  frames := block.frames
  samples := block.samples.mapIdx fun position old =>
    f (position / block.frames) (position % block.frames) old
  size_eq := by simp [block.size_eq]

def clear (block : AudioBlock) : AudioBlock := block.update fun _ _ _ => 0

/-- Give the block a shape. A change of shape silences it. -/
def reshape (block : AudioBlock) (channels frames : Nat) : AudioBlock :=
  if block.channels = channels ∧ block.frames = frames then block
  else silent channels frames

theorem reshape_channels (block : AudioBlock) (channels frames : Nat) :
    (block.reshape channels frames).channels = channels := by
  unfold reshape
  split
  · rename_i same
    exact same.1
  · rfl

theorem reshape_frames (block : AudioBlock) (channels frames : Nat) :
    (block.reshape channels frames).frames = frames := by
  unfold reshape
  split
  · rename_i same
    exact same.2
  · rfl

/-- A block with the shape of another has room for exactly its samples. -/
theorem size_samples_reshape (block source : AudioBlock) :
    (block.reshape source.channels source.frames).samples.size = source.samples.size := by
  rw [size_eq, source.size_eq, reshape_channels, reshape_frames]

/-- Overwrite the whole store, sample by sample, by a store of the same size. -/
def refill (block : AudioBlock) (samples : Array Float32)
    (fits : block.samples.size = samples.size) : AudioBlock where
  channels := block.channels
  frames := block.frames
  samples := block.samples.mapFinIdx fun position _ inside =>
    samples[position]
  size_eq := by simp [block.size_eq]

/-- Take over the shape and the samples of another block. -/
def copyFrom (block source : AudioBlock) : AudioBlock :=
  (block.reshape source.channels source.frames).refill source.samples
    (block.size_samples_reshape source)

/-- Overwrite one sample; nothing happens outside the block. -/
def write (block : AudioBlock) (ch n : Nat) (x : Float32) : AudioBlock :=
  block.update fun ch' n' old => if ch' = ch ∧ n' = n then x else old

/-- Overwrite the first samples of a channel, as many as fit. -/
def fill (block : AudioBlock) (ch : Nat) (samples : Array Float32) : AudioBlock :=
  block.update fun ch' n old => if ch' = ch then samples.getD n old else old

end AudioBlock

/-! ## Loops over channels -/

/-- A range of addresses that reaches beyond the end of a store. -/
structure Overrun where
  stop : Nat
  size : Nat
deriving DecidableEq, Repr

def Overrun.message (overrun : Overrun) : String :=
  "range end index " ++ toString overrun.stop ++ " out of range for slice of length " ++
    toString overrun.size

/-- The first channels of a block of some shape, as a loop goes through them. -/
structure Span where
  channels : Nat
  frames : Nat
  /-- How many of the channels the loop goes through. -/
  count : Nat

def AudioBlock.span (block : AudioBlock) (count : Nat) : Span :=
  ⟨block.channels, block.frames, count⟩

namespace Span

/-- The store has all samples of these channels. -/
def InRange (span : Span) : Prop :=
  span.count * span.frames ≤ roomFor span.channels span.frames

instance (span : Span) : Decidable span.InRange := inferInstanceAs (Decidable (_ ≤ _))

/-- The range of the first channel that is not there. -/
def overrun? (span : Span) : Option Overrun :=
  let room := roomFor span.channels span.frames
  if span.InRange then none else some ⟨(room / span.frames + 1) * span.frames, room⟩

/-- The fault of loops that are run one after another. -/
def firstOverrun? (spans : List Span) : Option Overrun := spans.findSome? overrun?

theorem firstOverrun?_eq_none {spans : List Span} :
    firstOverrun? spans = none ↔ ∀ span ∈ spans, span.InRange := by
  simp [firstOverrun?, overrun?]

end Span

end SignalNet
