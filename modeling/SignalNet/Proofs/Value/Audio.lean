import SignalNet.Proofs.Value.Conversion

/-!
Contract: what a block reads at a place after it was changed.

A block has samples at places of its shape only, and at all of them if it is whole, which it is
exactly if the size of the shape fits a word. An update keeps the shape and changes each sample by
itself, so the laws of single operations are laws about one place.

A loop over channels knows only the addresses of the store. It changes the places of its channels
and no others, because the addresses of one channel are those of no other (`address_iff`).
-/

set_option autoImplicit false

namespace SignalNet.AudioBlock

variable (block : AudioBlock) {ch n : Nat}

theorem inRange_span {count : Nat} :
    (block.span count).InRange ↔ count * block.frames ≤ block.samples.size := by
  rw [block.size_eq]
  rfl

/-- The store has a sample for every place of the shape. -/
def Whole : Prop := (block.span block.channels).InRange

instance : Decidable block.Whole := inferInstanceAs (Decidable (Span.InRange _))

theorem size_eq_iff :
    block.samples.size = block.channels * block.frames ↔
      block.channels * block.frames < UInt64.size := by
  rw [block.size_eq, roomFor_eq_iff]

theorem whole_iff : block.Whole ↔ block.channels * block.frames < UInt64.size := by
  have most : block.samples.size ≤ block.channels * block.frames := by
    rw [block.size_eq]
    exact roomFor_le block.channels block.frames
  rw [Whole, inRange_span, ← block.size_eq_iff]
  exact ⟨Nat.le_antisymm most, fun same => Nat.le_of_eq same.symm⟩

/-- Shapes alone tell which blocks are whole. -/
theorem Whole.of_shape {block other : AudioBlock} (whole : block.Whole)
    (channels : other.channels = block.channels) (frames : other.frames = block.frames) :
    other.Whole := by
  rw [whole_iff] at whole ⊢
  rwa [channels, frames]

/-- The store has room for the places of the channels that a loop may go through. -/
theorem address_lt {count : Nat} (inRange : (block.span count).InRange)
    (channelBelow : ch < count) (frameBelow : n < block.frames) :
    ch * block.frames + n < block.samples.size := by
  have rowEnd : (ch + 1) * block.frames ≤ count * block.frames :=
    Nat.mul_le_mul_right block.frames channelBelow
  rw [Nat.succ_mul] at rowEnd
  rw [inRange_span] at inRange
  omega

theorem sample?_of_lt (channelBelow : ch < block.channels) (frameBelow : n < block.frames) :
    block.sample? ch n = block.samples[ch * block.frames + n]? :=
  if_pos ⟨channelBelow, frameBelow⟩

/-- Every address of the store is that of a place. -/
theorem sampleD_of_lt {position : Nat} (below : position < block.samples.size) :
    block.sampleD (position / block.frames) (position % block.frames) =
      block.samples[position] := by
  have inside : position < block.channels * block.frames :=
    Nat.lt_of_lt_of_le (block.size_eq ▸ below) (roomFor_le _ _)
  have framesPositive : 0 < block.frames := by
    rcases Nat.eq_zero_or_pos block.frames with none | some
    · rw [none, Nat.mul_zero] at inside
      omega
    · exact some
  have channelBelow : position / block.frames < block.channels :=
    (Nat.div_lt_iff_lt_mul framesPositive).mpr inside
  have frameBelow : position % block.frames < block.frames := Nat.mod_lt _ framesPositive
  have address : position / block.frames * block.frames + position % block.frames = position :=
    Nat.div_add_mod' position block.frames
  rw [sampleD, sample?, if_pos ⟨channelBelow, frameBelow⟩, address,
    Array.getElem?_eq_getElem below, Option.getD_some]

/-- An update changes every sample by itself. -/
theorem sample?_update (f : Nat → Nat → Float32 → Float32) :
    (block.update f).sample? ch n = (block.sample? ch n).map (f ch n) := by
  by_cases inside : ch < block.channels ∧ n < block.frames
  · obtain ⟨channelBelow, frameBelow⟩ := inside
    have framesPositive : 0 < block.frames := Nat.zero_lt_of_lt frameBelow
    have channelBack : (ch * block.frames + n) / block.frames = ch := by
      rw [Nat.mul_comm, Nat.mul_add_div framesPositive, Nat.div_eq_of_lt frameBelow, Nat.add_zero]
    have frameBack : (ch * block.frames + n) % block.frames = n := by
      rw [Nat.mul_comm, Nat.mul_add_mod, Nat.mod_eq_of_lt frameBelow]
    rw [(block.update f).sample?_of_lt channelBelow frameBelow,
      block.sample?_of_lt channelBelow frameBelow]
    simp only [update, Array.getElem?_mapIdx, channelBack, frameBack]
  · have outside : ¬ (ch < (block.update f).channels ∧ n < (block.update f).frames) := inside
    rw [sample?, sample?, if_neg outside, if_neg inside]
    rfl

theorem sample?_clear : block.clear.sample? ch n = (block.sample? ch n).map fun _ => 0 :=
  block.sample?_update _

/-- In channels that are there the store holds the sample of a place at its address. -/
theorem sample?_eq_stored {count : Nat} (inRange : (block.span count).InRange)
    (counted : ch < count) (channelBelow : ch < block.channels) (frameBelow : n < block.frames) :
    block.sample? ch n = some (block.stored ch n) := by
  have below := block.address_lt inRange counted frameBelow
  rw [block.sample?_of_lt channelBelow frameBelow, Array.getElem?_eq_getElem below, stored,
    Array.getD_eq_getD_getElem?, Array.getElem?_eq_getElem below, Option.getD_some]

/-- A whole block has a sample exactly at the places of its shape. -/
theorem Whole.isSome_sample?_iff {block : AudioBlock} (whole : block.Whole) :
    (block.sample? ch n).isSome = true ↔ ch < block.channels ∧ n < block.frames := by
  constructor
  · intro present
    by_cases inside : ch < block.channels ∧ n < block.frames
    · exact inside
    · rw [sample?, if_neg inside] at present
      cases present
  · rintro ⟨channelBelow, frameBelow⟩
    rw [block.sample?_eq_stored whole channelBelow channelBelow frameBelow]
    rfl

theorem sample?_clear_of_lt (whole : block.Whole) (channelBelow : ch < block.channels)
    (frameBelow : n < block.frames) : block.clear.sample? ch n = some 0 := by
  rw [sample?_clear, block.sample?_eq_stored whole channelBelow channelBelow frameBelow,
    Option.map_some]

/-- Blocks of one shape with the same samples are equal. -/
theorem eq_of_samples {left right : AudioBlock} (channels : left.channels = right.channels)
    (frames : left.frames = right.frames)
    (samples : ∀ ch < left.channels, ∀ n < left.frames, left.sample? ch n = right.sample? ch n) :
    left = right := by
  have sameStore : left.samples = right.samples := by
    refine Array.ext ?_ fun position inLeft inRight => ?_
    · rw [left.size_eq, right.size_eq, channels, frames]
    · have inside : position < left.channels * left.frames :=
        Nat.lt_of_lt_of_le (left.size_eq ▸ inLeft) (roomFor_le _ _)
      have framesPositive : 0 < left.frames := Nat.pos_of_mul_pos_left (Nat.zero_lt_of_lt inside)
      have here := samples (position / left.frames)
        ((Nat.div_lt_iff_lt_mul framesPositive).mpr inside) (position % left.frames)
        (Nat.mod_lt _ framesPositive)
      rw [← left.sampleD_of_lt inLeft, ← right.sampleD_of_lt inRight, sampleD, sampleD, ← frames,
        here]
  cases left
  cases right
  cases channels
  cases frames
  cases sameStore
  rfl

/-! ## Loops over channels -/

theorem getElem?_modifyRun (samples : Array Float32) (start count : Nat)
    (f : Nat → Float32 → Float32) (position : Nat) :
    (modifyRun samples start count f)[position]? = (samples[position]?).map fun old =>
      if start ≤ position ∧ position < start + count then f (position - start) old else old := by
  induction count with
  | zero =>
      have outside : ¬ (start ≤ position ∧ position < start + 0) := by omega
      simp only [if_neg outside, Option.map_id']
      rfl
  | succ count inductionHypothesis =>
      have step : modifyRun samples start (count + 1) f =
          (modifyRun samples start count f).modify (start + count) (f count) := by
        rw [modifyRun, List.range_succ, List.foldl_append]
        rfl
      rw [step, Array.getElem?_modify, inductionHypothesis]
      by_cases last : start + count = position
      · have fresh : ¬ (start ≤ position ∧ position < start + count) := by omega
        have reached : start ≤ position ∧ position < start + (count + 1) := by omega
        have distance : position - start = count := by omega
        rw [if_pos last]
        simp only [if_neg fresh, if_pos reached, distance, Option.map_id']
      · have same : (start ≤ position ∧ position < start + (count + 1)) ↔
            (start ≤ position ∧ position < start + count) := by omega
        rw [if_neg last]
        simp only [same]

/-- The addresses of a channel are those of its places, and of no place of another channel. -/
theorem address_iff (other : Nat) (frameBelow : n < block.frames) :
    (other * block.frames ≤ ch * block.frames + n ∧
      ch * block.frames + n < other * block.frames + block.frames) ↔ ch = other := by
  constructor
  · rintro ⟨notBefore, notBehind⟩
    rcases Nat.lt_trichotomy ch other with before | same | behind
    · have := Nat.mul_le_mul_right block.frames (Nat.succ_le_of_lt before)
      rw [Nat.succ_mul] at this
      omega
    · exact same
    · have := Nat.mul_le_mul_right block.frames (Nat.succ_le_of_lt behind)
      rw [Nat.succ_mul] at this
      omega
  · rintro rfl
    omega

/-- A loop over a channel changes the samples of this channel only. -/
theorem sample?_modifyChannel (changed : Nat) (f : Nat → Float32 → Float32) :
    (block.modifyChannel changed f).sample? ch n =
      (block.sample? ch n).map fun old => if ch = changed then f n old else old := by
  by_cases inside : ch < block.channels ∧ n < block.frames
  · obtain ⟨channelBelow, frameBelow⟩ := inside
    rw [(block.modifyChannel changed f).sample?_of_lt channelBelow frameBelow,
      block.sample?_of_lt channelBelow frameBelow]
    show (modifyRun _ _ _ _)[ch * block.frames + n]? = _
    rw [getElem?_modifyRun]
    simp only [block.address_iff changed frameBelow]
    by_cases same : ch = changed
    · have distance : ch * block.frames + n - changed * block.frames = n := by
        rw [same, Nat.add_sub_cancel_left]
      simp only [distance]
    · simp only [if_neg same]
  · have outside : ¬ (ch < (block.modifyChannel changed f).channels ∧
        n < (block.modifyChannel changed f).frames) := inside
    rw [sample?, sample?, if_neg outside, if_neg inside]
    rfl

theorem modifyChannels_succ (count : Nat) (f : Nat → Nat → Float32 → Float32) :
    block.modifyChannels (count + 1) f =
      (block.modifyChannels count f).modifyChannel count (f count) := by
  rw [modifyChannels, List.range_succ, List.foldl_append]
  rfl

theorem modifyChannels_shape (count : Nat) (f : Nat → Nat → Float32 → Float32) :
    (block.modifyChannels count f).channels = block.channels ∧
      (block.modifyChannels count f).frames = block.frames := by
  induction count with
  | zero => exact ⟨rfl, rfl⟩
  | succ count inductionHypothesis =>
      rw [modifyChannels_succ]
      exact inductionHypothesis

/-- A loop over the first channels changes each of their samples once. -/
theorem sample?_modifyChannels (count : Nat) (f : Nat → Nat → Float32 → Float32) :
    (block.modifyChannels count f).sample? ch n =
      (block.sample? ch n).map fun old => if ch < count then f ch n old else old := by
  induction count with
  | zero => exact Option.map_id'.symm
  | succ count inductionHypothesis =>
      rw [modifyChannels_succ, sample?_modifyChannel, inductionHypothesis, Option.map_map]
      congr 1
      funext old
      by_cases last : ch = count
      · subst last
        simp
      · have same : ch < count + 1 ↔ ch < count := by omega
        simp [last, same]

end SignalNet.AudioBlock
