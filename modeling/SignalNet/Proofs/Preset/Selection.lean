import Mathlib.Data.List.Induction
import Mathlib.Data.List.Nodup
import SignalNet.Preset.Selector

/-!
Contract: a selector merges its two sets without losing or doubling a label.

Each set resolves by its own flag, the secondary one from the words that the primary one left.
Labels may repeat within a set and across the two. The merge has each of them once, where it first
appears, with the sum of all weights it has: first the primary ones by the rest of the
coefficient, then the secondary ones by the coefficient. Sums start from the first weight and run
from left to right, as sums of floating-point numbers depend on it.

Owns: what a set resolves to (`Resolves`), the labels and sums of a merge (`map_fst_merge`,
`lookup_merge`), and what a selector resolves to (`resolve_blended`).
-/

set_option autoImplicit false

namespace SignalNet.PresetSelector

/-! ## What a set resolves to -/

/-- What a set of candidates resolves to, and the words that are left. The flag says whether to
draw. -/
inductive Resolves (set : List (String × Float)) (source : WordSource) :
    Bool → List (String × Float) → WordSource → Prop where
  /-- All candidates with their shares. -/
  | shared : Resolves set source false (normalize set) source
  /-- The first candidate, as the weights cannot be drawn by. -/
  | first {candidate : String × Float} (unusable : usableSums? (set.map (·.2)) = none)
      (isFirst : set[0]? = some candidate) : Resolves set source true [(candidate.1, 1)] source
  /-- The candidate that the next word falls on, below a total that can be drawn from. -/
  | drawn {sums : List Float} {candidate : String × Float}
      (usable : usableSums? (set.map (·.2)) = some sums)
      (finite : (sums.getLastD 0).isFinite = true)
      (fallsOn : set[positionOf sums
        (fraction source.draw.1 * pointScale (sums.getLastD 0))]? = some candidate) :
      Resolves set source true [(candidate.1, 1)] source.draw.2
  /-- The total is infinite, and there is nothing to draw. Whoever asks for it is stopped; the
  candidate only stands here so that every set resolves to something. -/
  | endless {sums : List Float} {candidate : String × Float}
      (usable : usableSums? (set.map (·.2)) = some sums)
      (infinite : (sums.getLastD 0).isFinite = false)
      (fallsOn : set[positionOf sums
        (fraction source.draw.1 * pointScale (sums.getLastD 0))]? = some candidate) :
      Resolves set source true [(candidate.1, 1)] source.draw.2

theorem length_of_runningSums {start : Float} {weights sums : List Float}
    (run : runningSums start weights = some sums) : sums.length = weights.length := by
  induction weights generalizing start sums with
  | nil =>
      cases run
      rfl
  | cons weight rest inductionHypothesis =>
      rw [runningSums] at run
      split at run
      · obtain ⟨further, restRun, rfl⟩ := Option.map_eq_some_iff.mp run
        rw [List.length_cons, List.length_cons, inductionHypothesis restRun]
      · cases run

theorem length_of_usableSums {weights sums : List Float}
    (usable : usableSums? weights = some sums) :
    sums.length = weights.length ∧ sums ≠ [] := by
  unfold usableSums? at usable
  split at usable
  · cases usable
  · split at usable
    · split at usable
      · cases usable
      · rename_i further run
        split at usable
        · cases usable
        · cases usable
          exact ⟨congrArg (· + 1) (length_of_runningSums run), List.cons_ne_nil _ _⟩
    · cases usable

/-- Wherever a point lies, it falls on a candidate. -/
theorem positionOf_lt {sums : List Float} (nonempty : sums ≠ []) (point : Float) :
    positionOf sums point < sums.length := by
  have reached : positionOf sums point ≤ sums.length - 1 :=
    le_of_le_of_eq (List.length_filter_le _ _) List.length_dropLast
  have positive := List.length_pos_of_ne_nil nonempty
  omega

/-- A set that is not empty resolves in exactly one way. -/
theorem resolves_iff {draw : Bool} {set result : List (String × Float)} {source rest : WordSource}
    (nonempty : set ≠ []) :
    Resolves set source draw result rest ↔ resolveSet draw set source = (result, rest) := by
  constructor
  · rintro (_ | ⟨unusable, isFirst⟩ | ⟨usable, -, fallsOn⟩ | ⟨usable, -, fallsOn⟩)
    · rfl
    · simp only [resolveSet, drawOne, unusable, isFirst]
      rfl
    · simp only [resolveSet, drawOne, usable, fallsOn]
      rfl
    · simp only [resolveSet, drawOne, usable, fallsOn]
      rfl
  · intro resolved
    cases draw with
    | false =>
        cases resolved
        exact .shared
    | true =>
        simp only [resolveSet, drawOne, if_true] at resolved
        cases usable : usableSums? (set.map (·.2)) with
        | none =>
            have isFirst := List.getElem?_eq_getElem (List.length_pos_of_ne_nil nonempty)
            simp only [usable, isFirst] at resolved
            cases resolved
            exact .first usable isFirst
        | some sums =>
            obtain ⟨sameLength, sumsNonempty⟩ := length_of_usableSums usable
            have within := positionOf_lt sumsNonempty
              (fraction source.draw.1 * pointScale (sums.getLastD 0))
            rw [sameLength, List.length_map] at within
            have fallsOn := List.getElem?_eq_getElem within
            simp only [usable, fallsOn] at resolved
            cases resolved
            cases total : (sums.getLastD 0).isFinite with
            | true => exact .drawn usable total fallsOn
            | false => exact .endless usable total fallsOn

/-! ## The merge -/

/-- The weights that entries give to a label, in their order. -/
def weightsOf (label : String) (entries : List (String × Float)) : List Float :=
  (entries.filter (·.1 = label)).map (·.2)

/-- The sum of weights from left to right, from the first on; without weights, none. -/
def leftSum : List Float → Option Float
  | [] => none
  | first :: rest => some (rest.foldl (· + ·) first)

theorem leftSum_append_singleton (weights : List Float) (weight : Float) :
    leftSum (weights ++ [weight]) = some ((leftSum weights).elim weight (· + weight)) := by
  cases weights with
  | nil => rfl
  | cons first rest => rw [List.cons_append, leftSum, List.foldl_append]; rfl

theorem weightsOf_append (label : String) (first second : List (String × Float)) :
    weightsOf label (first ++ second) = weightsOf label first ++ weightsOf label second := by
  rw [weightsOf, List.filter_append, List.map_append]
  rfl

theorem weightsOf_scale (label : String) (factor : Float) (entries : List (String × Float)) :
    weightsOf label (scale factor entries) = (weightsOf label entries).map (· * factor) := by
  rw [weightsOf, weightsOf, scale, List.filter_map, List.map_map, List.map_map]
  rfl

theorem map_fst_scale (factor : Float) (entries : List (String × Float)) :
    (scale factor entries).map (·.1) = entries.map (·.1) := by
  rw [scale, List.map_map]
  rfl

/-- A label that is new goes to the end, and no other one moves. -/
theorem map_fst_accumulate (label : String) (weight : Float) (merged : List (String × Float)) :
    (accumulate label weight merged).map (·.1) =
      if label ∈ merged.map (·.1) then merged.map (·.1) else merged.map (·.1) ++ [label] := by
  induction merged with
  | nil => rfl
  | cons entry rest inductionHypothesis =>
      rw [accumulate]
      by_cases same : entry.1 = label
      · simp [same]
      · rw [if_neg same, List.map_cons, inductionHypothesis]
        simp only [List.map_cons, List.mem_cons, Ne.symm same, false_or]
        split <;> rfl

theorem lookup_cons_eq (label : String) (entry : String × Float) (rest : List (String × Float)) :
    (entry :: rest).lookup label = if label = entry.1 then some entry.2 else rest.lookup label := by
  obtain ⟨own, weight⟩ := entry
  rw [List.lookup_cons]
  by_cases same : label = own
  · simp [same]
  · simp [same, beq_false_of_ne same]

/-- The weight counts for its own label, and for no other one. -/
theorem lookup_accumulate (label other : String) (weight : Float)
    (merged : List (String × Float)) :
    (accumulate label weight merged).lookup other =
      if other = label then some ((merged.lookup label).elim weight (· + weight))
      else merged.lookup other := by
  induction merged with
  | nil => rw [accumulate, lookup_cons_eq]; rfl
  | cons entry rest inductionHypothesis =>
      rw [accumulate, lookup_cons_eq label, lookup_cons_eq other]
      by_cases same : entry.1 = label
      · rw [if_pos same, lookup_cons_eq, same, if_pos rfl]
        split <;> rfl
      · rw [if_neg same, lookup_cons_eq, inductionHypothesis, if_neg (Ne.symm same)]
        by_cases own : other = label
        · rw [if_neg (own.trans_ne (Ne.symm same)), if_pos own, if_pos own]
        · rw [if_neg own, if_neg own]

theorem eraseDups_append_singleton (labels : List String) (label : String) :
    (labels ++ [label]).eraseDups =
      if label ∈ labels then labels.eraseDups else labels.eraseDups ++ [label] := by
  rw [List.eraseDups_append]
  split
  · rename_i known
    simp [List.removeAll, known]
  · rename_i absent
    simp [List.removeAll, absent, List.eraseDups_cons]

theorem merge_append_singleton (entries : List (String × Float)) (entry : String × Float) :
    merge (entries ++ [entry]) = accumulate entry.1 entry.2 (merge entries) := by
  rw [merge, List.foldl_append]
  rfl

/-- A merge has the labels of its entries in the order in which they first appear. -/
theorem map_fst_merge (entries : List (String × Float)) :
    (merge entries).map (·.1) = (entries.map (·.1)).eraseDups := by
  induction entries using List.reverseRecOn with
  | nil => rfl
  | append_singleton entries entry inductionHypothesis =>
      rw [merge_append_singleton, map_fst_accumulate, inductionHypothesis, List.map_append,
        List.map_singleton, eraseDups_append_singleton]
      simp only [List.mem_eraseDups]

/-- No label comes twice in a merge. -/
theorem nodup_merge (entries : List (String × Float)) : ((merge entries).map (·.1)).Nodup := by
  induction entries using List.reverseRecOn with
  | nil => exact List.nodup_nil
  | append_singleton entries entry inductionHypothesis =>
      rw [merge_append_singleton, map_fst_accumulate]
      split
      · exact inductionHypothesis
      · rename_i absent
        exact List.nodup_append'.mpr ⟨inductionHypothesis, List.nodup_singleton _,
          List.disjoint_singleton.mpr absent⟩

/-- In a merge, each label has the sum of its weights. -/
theorem lookup_merge (label : String) (entries : List (String × Float)) :
    (merge entries).lookup label = leftSum (weightsOf label entries) := by
  induction entries using List.reverseRecOn with
  | nil => rfl
  | append_singleton entries entry inductionHypothesis =>
      rw [merge_append_singleton, lookup_accumulate, weightsOf_append]
      by_cases same : label = entry.1
      · subst same
        have own : weightsOf entry.1 [entry] = [entry.2] := by simp [weightsOf]
        rw [if_pos rfl, inductionHypothesis, own, leftSum_append_singleton]
      · have foreign : weightsOf label [entry] = [] := by simp [weightsOf, Ne.symm same]
        rw [if_neg same, inductionHypothesis, foreign, List.append_nil]

/-! ## Selectors -/

/-- The coefficient that a selector blends by. -/
def blendedBy (selector : PresetSelector) : Float := selector.coefficient.getD defaultCoefficient

/-- Whatever the words are, a selector with primary candidates resolves its primary set; only from
weights with an infinite total, nothing can be drawn (`Resolves.endless`). That is its result where
nothing is to be blended in, and no further word is used. Otherwise the secondary set resolves from
the words that are left, and the result has each label of the two sets once, in the order of their
first places, with the sum of what the two sets give to it. -/
theorem resolve_blended (selector : PresetSelector) (source : WordSource)
    (filled : selector.primary ≠ []) :
    ∃ primary words,
      Resolves selector.primary source selector.mode.drawPrimary primary words ∧
      (selector.mode.interpolate = false ∨ selector.secondary = [] →
        selector.resolve source = (.ok primary, words)) ∧
      (selector.mode.interpolate = true → selector.secondary ≠ [] →
        0 ≤ selector.blendedBy → selector.blendedBy ≤ 1 →
        ∃ secondary rest merged,
          Resolves selector.secondary words selector.mode.drawSecondary secondary rest ∧
          selector.resolve source = (.ok merged, rest) ∧
          (merged.map (·.1)).Nodup ∧
          merged.map (·.1) = (primary.map (·.1) ++ secondary.map (·.1)).eraseDups ∧
          ∀ label, merged.lookup label =
            leftSum ((weightsOf label primary).map (· * (1 - selector.blendedBy)) ++
              (weightsOf label secondary).map (· * selector.blendedBy))) := by
  obtain ⟨⟨primary, words⟩, resolved⟩ :
    ∃ result, resolveSet selector.mode.drawPrimary selector.primary source = result := ⟨_, rfl⟩
  have isFilled : selector.primary.isEmpty = false := List.isEmpty_eq_false_iff.mpr filled
  refine ⟨primary, words, (resolves_iff filled).mpr resolved, fun unblended => ?_,
    fun interpolates candidates atLeast atMost => ?_⟩
  · have skips : (selector.secondary.isEmpty || !selector.mode.interpolate) = true := by
      rcases unblended with plain | none
      · simp [plain]
      · simp [none]
    simp [resolve, isFilled, resolved, skips]
  · obtain ⟨⟨secondary, rest⟩, alsoResolved⟩ :
      ∃ result, resolveSet selector.mode.drawSecondary selector.secondary words = result :=
        ⟨_, rfl⟩
    have blends : (selector.secondary.isEmpty || !selector.mode.interpolate) = false := by
      simp [interpolates, candidates]
    have inRange : isCoefficient selector.blendedBy = true := by
      simp [isCoefficient, atLeast, atMost]
    refine ⟨secondary, rest, _, (resolves_iff candidates).mpr alsoResolved, ?_,
      nodup_merge (scale (1 - selector.blendedBy) primary ++ scale selector.blendedBy secondary),
      ?_, fun label => ?_⟩
    · rw [blendedBy] at inRange ⊢
      simp [resolve, isFilled, resolved, blends, inRange, alsoResolved]
    · rw [map_fst_merge, List.map_append, map_fst_scale, map_fst_scale]
    · rw [lookup_merge, weightsOf_append, weightsOf_scale, weightsOf_scale]

/-- A selector with a label that comes twice in its primary set, and with one in both sets. -/
def overlapping : PresetSelector :=
  ⟨[("calm", 1), ("wild", 2), ("calm", 3)], [("wild", 1), ("dark", 1)], ⟨false, true, true⟩,
    some 0.25⟩

theorem resolve_blended_overlapping :
    overlapping.primary ≠ [] ∧ overlapping.secondary ≠ [] ∧
      0 ≤ overlapping.blendedBy ∧ overlapping.blendedBy ≤ 1 ∧
        ∃ primary words secondary rest merged,
          Resolves overlapping.primary ⟨#[7, 9], 0⟩ false primary words ∧
          Resolves overlapping.secondary words true secondary rest ∧
          overlapping.resolve ⟨#[7, 9], 0⟩ = (.ok merged, rest) ∧
          (merged.map (·.1)).Nodup ∧
          ∀ label, merged.lookup label =
            leftSum ((weightsOf label primary).map (· * (1 - overlapping.blendedBy)) ++
              (weightsOf label secondary).map (· * overlapping.blendedBy)) := by
  have filled : overlapping.primary ≠ [] := List.cons_ne_nil _ _
  have candidates : overlapping.secondary ≠ [] := List.cons_ne_nil _ _
  have atLeast : 0 ≤ overlapping.blendedBy := by decide
  have atMost : overlapping.blendedBy ≤ 1 := by decide
  obtain ⟨primary, words, primaryResolves, -, blended⟩ :=
    resolve_blended overlapping ⟨#[7, 9], 0⟩ filled
  obtain ⟨secondary, rest, merged, secondaryResolves, resolved, distinct, -, sums⟩ :=
    blended rfl candidates atLeast atMost
  exact ⟨filled, candidates, atLeast, atMost, primary, words, secondary, rest, merged,
    primaryResolves, secondaryResolves, resolved, distinct, sums⟩

end SignalNet.PresetSelector
