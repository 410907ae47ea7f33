import SignalNet.Proofs.Number.ZeroWeight
import SignalNet.Proofs.Preset.BestEffort
import SignalNet.Proofs.Preset.Idempotence

/-!
Contract: a preset without weight beside one that has all of it.

A contribution without weight takes part in a blend all the same: it has to convert, and it is
multiplied by zero and added. If it is harmless, the blend is that of the other preset alone, and
does not depend on the live value. A field that only the preset without weight mentions is blended
from its live value, and hands that back to a place of the same type.

So two applications whose steps assign the fields of the preset with all of the weight to a place
in the same order leave the same value in it, unless something of the other preset disturbs the
place for good. What is overwritten later does not count: until then the place may differ.

Owns: endpoints, blends at an endpoint (`blend_pair`, `blend_idle`), which fields touch a place and
which are calm there (`Field.Calm`), places that are overwritten (`Overwritten`), and the alignment
of the steps of two applications (`Aligned`, `Aligned.place?_runSteps`).
-/

set_option autoImplicit false

namespace SignalNet

variable {P : Type}

namespace Blend

/-! ## Endpoints -/

/-- The preset that has all of the weight in a blend of two: the other one is idle. -/
inductive Endpoint where
  | first
  | second
deriving DecidableEq

/-- What belongs to the preset with all of the weight, in its place beside what belongs to the
idle one. -/
def Endpoint.pair {α : Type} : Endpoint → α → α → List α
  | .first, full, idle => [full, idle]
  | .second, full, idle => [idle, full]

theorem Endpoint.map_pair {α β : Type} (f : α → β) (endpoint : Endpoint) (full idle : α) :
    (endpoint.pair full idle).map f = endpoint.pair (f full) (f idle) := by
  cases endpoint <;> rfl

theorem Endpoint.mem_pair {α : Type} {endpoint : Endpoint} {full idle x : α} :
    x ∈ endpoint.pair full idle ↔ x = full ∨ x = idle := by
  cases endpoint
  · simp [pair]
  · simp [pair, or_comm]

def Endpoint.weights (endpoint : Endpoint) (full idle : String) : Weights :=
  endpoint.pair (full, 1) (idle, 0)

/-- The literal that a preset has for a channel of a variable of a proc. -/
def given? (site : Site P) (preset label : String) (ch : Nat) : Option Literal :=
  literal? (body site preset).toOption.join label ch

/-- A body contributes a value of the type, which is finite where the type blends by
arithmetic. -/
def Harmless (type : ValueType) (label : String) (ch : Nat) (live : Value)
    (body : Option Assignments × Float) : Prop :=
  ∃ part, contribution type label ch live body = .ok part ∧
    (type.isNumeric = true → (part.value.number?.getD 0).isFinite = true)

instance (type : ValueType) (label : String) (ch : Nat) (live : Value)
    (body : Option Assignments × Float) : Decidable (Harmless type label ch live body) :=
  match made : contribution type label ch live body with
  | .error _ => .isFalse fun ⟨_, alsoMade, _⟩ => nomatch made.symm.trans alsoMade
  | .ok part =>
      decidable_of_iff (type.isNumeric = true → (part.value.number?.getD 0).isFinite = true)
        ⟨fun finite => ⟨part, made, finite⟩, fun ⟨_, alsoMade, finite⟩ => by
          cases made.symm.trans alsoMade
          exact finite⟩

/-- All bodies without weight are harmless where a field is blended. -/
def Field.Quiet (field : Field) (store : Store P) : Prop :=
  ∀ body ∈ field.bodies, body.2 = 0 →
    Harmless field.type field.var field.channel (field.live store) body

instance (field : Field) (store : Store P) : Decidable (field.Quiet store) :=
  inferInstanceAs (Decidable (∀ body ∈ field.bodies, _))

/-! ## Blends at an endpoint -/

theorem weight_of_contribution {type : ValueType} {label : String} {ch : Nat} {live : Value}
    {body : Option Assignments × Float} {part : Contribution}
    (made : contribution type label ch live body = .ok part) : part.weight = body.2 := by
  unfold contribution at made
  split at made
  · obtain ⟨value, -, rfl⟩ := map_eq_ok.mp made
    rfl
  · cases made
    rfl

/-- A contribution without weight makes no difference beside one that has all of it. -/
theorem combine_pair (endpoint : Endpoint) {type : ValueType} {full idle : Contribution}
    (allWeight : full.weight = 1) (noWeight : idle.weight = 0)
    (stated : full.mentioned = true ∨ idle.mentioned = true)
    (finite : type.isNumeric = true → (idle.value.number?.getD 0).isFinite = true) :
    combine type (endpoint.pair full idle) = combine type [⟨true, 1, full.value⟩] := by
  have mentioned : (endpoint.pair full idle).any (·.mentioned) = true := by
    rw [List.any_eq_true]
    rcases stated with byFull | byIdle
    · exact ⟨full, Endpoint.mem_pair.mpr (.inl rfl), byFull⟩
    · exact ⟨idle, Endpoint.mem_pair.mpr (.inr rfl), byIdle⟩
  have alone : [(⟨true, 1, full.value⟩ : Contribution)].any (·.mentioned) = true := rfl
  rw [combine, combine, if_pos mentioned, if_pos alone]
  cases numeric : type.isNumeric with
  | true =>
      have sameSum : weightedSum (endpoint.pair full idle) =
          weightedSum [⟨true, 1, full.value⟩] := by
        cases endpoint with
        | first =>
            simp only [Endpoint.pair, weightedSum, List.foldl_cons, List.foldl_nil, allWeight,
              noWeight]
            exact Number.zero_add_add_zero_mul _ (finite numeric)
        | second =>
            simp only [Endpoint.pair, weightedSum, List.foldl_cons, List.foldl_nil, allWeight,
              noWeight]
            rw [Number.zero_add_zero_mul (finite numeric)]
      simp only [sameSum, if_true]
  | false =>
      have sameChoice : (heaviest (endpoint.pair full idle)).map (·.value) =
          (heaviest [⟨true, 1, full.value⟩]).map (·.value) := by
        have lighter : ¬ full.weight ≤ idle.weight := by
          rw [allWeight, noWeight]
          decide
        have heavier : idle.weight ≤ full.weight := by
          rw [allWeight, noWeight]
          decide
        cases endpoint with
        | first =>
            simp only [Endpoint.pair, heaviest, List.foldl_cons, List.foldl_nil, if_neg lighter]
            rfl
        | second =>
            simp only [Endpoint.pair, heaviest, List.foldl_cons, List.foldl_nil, if_pos heavier]
            rfl
      simp only [sameChoice, Bool.false_eq_true, if_false]

/-- A harmless body without weight makes no difference to a blend. -/
theorem blend_pair (endpoint : Endpoint) {type : ValueType} {label : String} {ch : Nat}
    {live : Value} {full idle : Option Assignments} (given : (literal? full label ch).isSome = true)
    (harmless : Harmless type label ch live (idle, 0)) :
    blend type label ch live (endpoint.pair (full, 1) (idle, 0)) =
      blend type label ch live [(full, 1)] := by
  obtain ⟨literal, isLiteral⟩ := Option.isSome_iff_exists.mp given
  obtain ⟨part, made, finite⟩ := harmless
  have fullPart : contribution type label ch live (full, 1) =
      (literal.toValue type).map (⟨true, 1, ·⟩) := by
    rw [contribution, isLiteral]
  cases converted : literal.toValue type with
  | error fault =>
      cases endpoint <;>
        simp only [blend, Endpoint.pair, List.mapM_cons, fullPart, made, converted] <;> rfl
  | ok value =>
      have both : blend type label ch live (endpoint.pair (full, 1) (idle, 0)) =
          combine type (endpoint.pair ⟨true, 1, value⟩ part) := by
        cases endpoint <;>
          simp only [blend, Endpoint.pair, List.mapM_cons, fullPart, made, converted] <;> rfl
      have alone : blend type label ch live [(full, 1)] = combine type [⟨true, 1, value⟩] := by
        simp only [blend, List.mapM_cons, fullPart, converted]
        rfl
      rw [both, alone, combine_pair endpoint rfl (weight_of_contribution made) (.inl rfl) finite]

/-- Where only a harmless body without weight mentions a channel, its live value is blended as if
that were all. -/
theorem blend_idle (endpoint : Endpoint) {type : ValueType} {label : String} {ch : Nat}
    {live : Value} {full idle : Option Assignments} (missing : literal? full label ch = none)
    (given : (literal? idle label ch).isSome = true)
    (harmless : Harmless type label ch live (idle, 0)) :
    blend type label ch live (endpoint.pair (full, 1) (idle, 0)) =
      combine type [⟨true, 1, live⟩] := by
  obtain ⟨part, made, finite⟩ := harmless
  have fullPart : contribution type label ch live (full, 1) = .ok ⟨false, 1, live⟩ := by
    rw [contribution, missing]
  have stated : part.mentioned = true := (contribution_mentioned made).trans given
  have both : blend type label ch live (endpoint.pair (full, 1) (idle, 0)) =
      combine type (endpoint.pair ⟨false, 1, live⟩ part) := by
    cases endpoint <;> simp only [blend, Endpoint.pair, List.mapM_cons, fullPart, made] <;> rfl
  rw [both, combine_pair endpoint rfl (weight_of_contribution made) (.inr stated) finite]

/-! ## Steps that touch a place -/

/-- A field may assign to a place. -/
def Field.Touches (field : Field) (terminal : Terminal) (ch : Nat) : Prop :=
  terminal ∈ field.terminals ∧ field.channel = ch ∧ field.mentioned = true

def Step.Touches (terminal : Terminal) (ch : Nat) : Step → Prop
  | .report _ => False
  | .blend field => field.Touches terminal ch

instance (terminal : Terminal) (ch : Nat) : (step : Step) → Decidable (step.Touches terminal ch)
  | .report _ => inferInstanceAs (Decidable False)
  | .blend field => inferInstanceAs (Decidable (terminal ∈ field.terminals ∧ _))

theorem Field.place?_apply [Processor P] {field : Field} {terminal : Terminal} {ch : Nat}
    (misses : ¬ field.Touches terminal ch) (store : Store P) :
    (field.apply store).1.place? terminal ch = store.place? terminal ch := by
  by_cases leads : terminal ∈ field.terminals
  · by_cases same : field.channel = ch
    · have unmentioned : field.mentioned = false := by
        simpa [Touches, leads, same] using misses
      rw [apply_eq, field.blended_of_not_mentioned unmentioned]
    · exact field.place?_apply_of_ne store terminal (Ne.symm same)
  · exact (written_applyChannel field.type field.var field.terminals field.bodies store
      field.channel).place?_unchanged leads ch

theorem Step.place?_run [Processor P] {step : Step} {terminal : Terminal} {ch : Nat}
    (misses : ¬ step.Touches terminal ch) (store : Store P) :
    (step.run store).1.place? terminal ch = store.place? terminal ch := by
  cases step with
  | report failure => rfl
  | blend field => exact field.place?_apply misses store

theorem Step.alike_run [Processor P] (step : Step) (store : Store P) :
    (step.run store).1.Alike store :=
  (written_runSteps [step] store).alike

/-! ## Calm fields -/

/-- A body that has some weight mentions the field. -/
def Field.Weighted (field : Field) : Prop :=
  ∃ body ∈ field.bodies, body.2 ≠ 0 ∧ (literal? body.1 field.var field.channel).isSome = true

instance (field : Field) : Decidable field.Weighted :=
  inferInstanceAs (Decidable (∃ body ∈ field.bodies, _))

theorem weighted_of_pair {endpoint : Endpoint} {field : Field} {full idle : Option Assignments}
    (isPair : field.bodies = endpoint.pair (full, 1) (idle, 0)) :
    field.Weighted ↔ (literal? full field.var field.channel).isSome = true := by
  constructor
  · rintro ⟨body, isBody, hasWeight, given⟩
    rcases Endpoint.mem_pair.mp (isPair ▸ isBody) with rfl | rfl
    · exact given
    · exact absurd rfl hasWeight
  · intro given
    have hasWeight : (1 : Float) ≠ 0 := by decide
    exact ⟨(full, 1), isPair ▸ Endpoint.mem_pair.mpr (.inl rfl), hasWeight, given⟩

/-- A value of some type is what a blend of it alone gives. Negative zero is not, since it is added
to zero. -/
def Restored (type : ValueType) (value : Value) : Prop :=
  combine type [⟨true, 1, value⟩] = .ok (some value)

instance (type : ValueType) (value : Value) : Decidable (Restored type value) :=
  inferInstanceAs (Decidable (_ = _))

/-- The field has the type of a place behind it and its live value is the one there, and that is
restored. -/
def Field.Returns (field : Field) (store : Store P) (terminal : Terminal) : Prop :=
  ∃ held, store.place? terminal field.channel = some held ∧ held.type = field.type ∧
    field.live store = held ∧ Restored field.type held

instance (field : Field) (store : Store P) (terminal : Terminal) :
    Decidable (field.Returns store terminal) :=
  match there : store.place? terminal field.channel with
  | none => .isFalse fun ⟨_, found, _⟩ => nomatch there.symm.trans found
  | some held =>
      decidable_of_iff
        (held.type = field.type ∧ field.live store = held ∧ Restored field.type held)
        ⟨fun returns => ⟨held, there, returns⟩, fun ⟨_, found, returns⟩ => by
          cases there.symm.trans found
          exact returns⟩

/-- Bodies without weight make no difference to what the blend of a field leaves in a place. -/
structure Field.Calm (field : Field) (store : Store P) (terminal : Terminal) : Prop where
  quiet : field.Quiet store
  returns : ¬ field.Weighted → field.Returns store terminal

instance (field : Field) (store : Store P) (terminal : Terminal) :
    Decidable (field.Calm store terminal) :=
  decidable_of_iff (field.Quiet store ∧ (¬ field.Weighted → field.Returns store terminal))
    ⟨fun ⟨quiet, returns⟩ => ⟨quiet, returns⟩, fun calm => ⟨calm.quiet, calm.returns⟩⟩

def Step.Calm (step : Step) (store : Store P) (terminal : Terminal) : Prop :=
  match step with
  | .report _ => True
  | .blend field => field.Calm store terminal

instance (store : Store P) (terminal : Terminal) :
    (step : Step) → Decidable (step.Calm store terminal)
  | .report _ => inferInstanceAs (Decidable True)
  | .blend field => inferInstanceAs (Decidable (field.Calm store terminal))

section

variable [Processor P] (terminal : Terminal) (ch : Nat)

/-- The step carries out, without a fault, the blend of a field that leads to the place and that a
body with weight mentions. -/
def Step.Overwrites (store : Store P) : Step → Prop
  | .report _ => False
  | .blend field =>
      field.Touches terminal ch ∧ field.Weighted ∧ (field.apply store).2 = none

instance (store : Store P) : (step : Step) → Decidable (step.Overwrites terminal ch store)
  | .report _ => inferInstanceAs (Decidable False)
  | .blend _ => inferInstanceAs (Decidable ((_ ∧ _) ∧ _))

variable {terminal ch} in
theorem Step.Overwrites.touches {step : Step} {store : Store P}
    (overwrites : step.Overwrites terminal ch store) : step.Touches terminal ch := by
  cases step with
  | report failure => exact overwrites
  | blend field => exact overwrites.1

/-- One of the steps overwrites the place in its turn. -/
def Overwritten : List Step → Store P → Prop
  | [], _ => False
  | step :: rest, store =>
      step.Overwrites terminal ch store ∨ Overwritten rest (step.run store).1

instance decidableOverwritten :
    (steps : List Step) → (store : Store P) → Decidable (Overwritten terminal ch steps store)
  | [], _ => inferInstanceAs (Decidable False)
  | step :: rest, store =>
      have := decidableOverwritten rest (step.run store).1
      inferInstanceAs (Decidable (step.Overwrites terminal ch store ∨ _))

/-- Each step that touches the place is calm in its turn, or the place is overwritten behind it. -/
def Settled : List Step → Store P → Prop
  | [], _ => True
  | step :: rest, store =>
      (step.Touches terminal ch →
          step.Calm store terminal ∨ Overwritten terminal ch rest (step.run store).1) ∧
        Settled rest (step.run store).1

instance decidableSettled :
    (steps : List Step) → (store : Store P) → Decidable (Settled terminal ch steps store)
  | [], _ => inferInstanceAs (Decidable True)
  | step :: rest, store =>
      have := decidableSettled rest (step.run store).1
      inferInstanceAs (Decidable ((step.Touches terminal ch → _) ∧ _))

end

/-- A calm field that only a body without weight mentions leaves the place as it is. -/
theorem Field.place?_apply_of_returns [Processor P] {endpoint : Endpoint} {field : Field}
    {full idle : Option Assignments} {store : Store P} {terminal : Terminal}
    (isPair : field.bodies = endpoint.pair (full, 1) (idle, 0))
    (missing : literal? full field.var field.channel = none)
    (mentioned : field.mentioned = true) (calm : field.Calm store terminal) :
    (field.apply store).1.place? terminal field.channel =
      store.place? terminal field.channel := by
  have unweighted : ¬ field.Weighted := by
    rw [weighted_of_pair isPair, missing]
    nofun
  obtain ⟨held, there, sameType, live, restored⟩ := calm.returns unweighted
  have given : (literal? idle field.var field.channel).isSome = true := by
    obtain ⟨body, isBody, given⟩ := List.any_eq_true.mp mentioned
    rcases Endpoint.mem_pair.mp (isPair ▸ isBody) with rfl | rfl
    · rw [missing] at given
      cases given
    · exact given
  have harmless := calm.quiet (idle, 0) (isPair ▸ Endpoint.mem_pair.mpr (.inr rfl)) rfl
  have blended : field.blended store = .ok (some held) := by
    rw [Field.blended, isPair]
    exact (blend_idle endpoint missing given harmless).trans (live ▸ restored)
  rw [apply_fst_of_blended blended, there]
  exact Store.place?_write_same true field.terminals there

/-! ## Two lists of steps that do the same to a place -/

/-- The steps of two presets and those of the one with all of the weight: as far as that one
assigns to a place, they are the same fields in the same order. -/
inductive Aligned (endpoint : Endpoint) (terminal : Terminal) (ch : Nat) :
    List Step → List Step → Prop where
  | done : Aligned endpoint terminal ch [] []
  | left {step : Step} {both alone : List Step} (misses : ¬ step.Touches terminal ch)
      (rest : Aligned endpoint terminal ch both alone) :
      Aligned endpoint terminal ch (step :: both) alone
  | right {step : Step} {both alone : List Step} (misses : ¬ step.Touches terminal ch)
      (rest : Aligned endpoint terminal ch both alone) :
      Aligned endpoint terminal ch both (step :: alone)
  /-- Only the preset without weight may mention the field. -/
  | idle {field : Field} {full idle : Option Assignments} {both alone : List Step}
      (isPair : field.bodies = endpoint.pair (full, 1) (idle, 0))
      (missing : literal? full field.var field.channel = none)
      (rest : Aligned endpoint terminal ch both alone) :
      Aligned endpoint terminal ch (.blend field :: both) alone
  | paired {field : Field} {full idle : Option Assignments} {both alone : List Step}
      (isPair : field.bodies = endpoint.pair (full, 1) (idle, 0))
      (given : (literal? full field.var field.channel).isSome = true)
      (rest : Aligned endpoint terminal ch both alone) :
      Aligned endpoint terminal ch (.blend field :: both)
        (.blend { field with bodies := [(full, 1)] } :: alone)

section

variable {endpoint : Endpoint} {terminal : Terminal} {ch : Nat}

theorem Aligned.of_left {both : List Step} (left : ∀ step ∈ both, ¬ step.Touches terminal ch) :
    Aligned endpoint terminal ch both [] := by
  induction both with
  | nil => exact .done
  | cons step rest inductionHypothesis =>
      exact .left (left step List.mem_cons_self)
        (inductionHypothesis fun step member => left step (List.mem_cons_of_mem _ member))

theorem Aligned.of_right {alone : List Step}
    (right : ∀ step ∈ alone, ¬ step.Touches terminal ch) :
    Aligned endpoint terminal ch [] alone := by
  induction alone with
  | nil => exact .done
  | cons step rest inductionHypothesis =>
      exact .right (right step List.mem_cons_self)
        (inductionHypothesis fun step member => right step (List.mem_cons_of_mem _ member))

theorem Aligned.append {both both' alone alone' : List Step}
    (first : Aligned endpoint terminal ch both alone)
    (second : Aligned endpoint terminal ch both' alone') :
    Aligned endpoint terminal ch (both ++ both') (alone ++ alone') := by
  induction first with
  | done => exact second
  | left misses _ inductionHypothesis => exact .left misses inductionHypothesis
  | right misses _ inductionHypothesis => exact .right misses inductionHypothesis
  | idle isPair missing _ inductionHypothesis => exact .idle isPair missing inductionHypothesis
  | paired isPair given _ inductionHypothesis => exact .paired isPair given inductionHypothesis

theorem Aligned.flatMap {α : Type} {both alone : α → List Step} {items : List α}
    (each : ∀ item ∈ items, Aligned endpoint terminal ch (both item) (alone item)) :
    Aligned endpoint terminal ch (items.flatMap both) (items.flatMap alone) := by
  induction items with
  | nil => exact .done
  | cons item rest inductionHypothesis =>
      rw [List.flatMap_cons, List.flatMap_cons]
      exact (each item List.mem_cons_self).append
        (inductionHypothesis fun other member => each other (List.mem_cons_of_mem item member))

theorem Aligned.of_misses {both alone : List Step}
    (left : ∀ step ∈ both, ¬ step.Touches terminal ch)
    (right : ∀ step ∈ alone, ¬ step.Touches terminal ch) :
    Aligned endpoint terminal ch both alone := by
  rw [← List.append_nil both, ← List.nil_append alone]
  exact (of_left left).append (of_right right)

/-- Lists of labels that agree on those whose steps matter give aligned steps. -/
theorem Aligned.flatMap_of_filter {matters : String → Bool} {both alone : String → List Step}
    (aligned : ∀ label, matters label = true →
      Aligned endpoint terminal ch (both label) (alone label))
    (left : ∀ label, matters label = false → Aligned endpoint terminal ch (both label) [])
    (right : ∀ label, matters label = false → ∀ step ∈ alone label, ¬ step.Touches terminal ch)
    {labels others : List String} (same : labels.filter matters = others.filter matters) :
    Aligned endpoint terminal ch (labels.flatMap both) (others.flatMap alone) := by
  induction labels generalizing others with
  | nil =>
      refine .of_right fun step member => ?_
      obtain ⟨label, listed, isStep⟩ := List.mem_flatMap.mp member
      refine right label ?_ step isStep
      simpa using List.filter_eq_nil_iff.mp same.symm label listed
  | cons label rest inductionHypothesis =>
      cases isMatter : matters label with
      | false =>
          rw [List.filter_cons_of_neg (by rw [isMatter]; nofun)] at same
          exact (left label isMatter).append (inductionHypothesis same)
      | true =>
          rw [List.filter_cons_of_pos isMatter] at same
          obtain ⟨before, after, rfl, missed, -, others⟩ :=
            List.filter_eq_cons_iff.mp same.symm
          rw [List.flatMap_append, List.flatMap_cons]
          refine (Aligned.of_right fun step member => ?_).append
            ((aligned label isMatter).append (inductionHypothesis others.symm))
          obtain ⟨other, listed, isStep⟩ := List.mem_flatMap.mp member
          exact right other (by simpa using missed other listed) step isStep

/-- A field with a harmless idle body does what it does without it. -/
theorem Field.apply_pair [Processor P] {field : Field} {full idle : Option Assignments}
    (isPair : field.bodies = endpoint.pair (full, 1) (idle, 0))
    (given : (literal? full field.var field.channel).isSome = true) {store : Store P}
    (quiet : field.Quiet store) :
    field.apply store = { field with bodies := [(full, 1)] }.apply store := by
  have harmless := quiet (idle, 0) (isPair ▸ Endpoint.mem_pair.mpr (.inr rfl)) rfl
  have sameBlend : field.blended store = { field with bodies := [(full, 1)] }.blended store := by
    rw [blended, isPair]
    exact blend_pair endpoint given harmless
  rw [apply_eq, apply_eq, sameBlend]

/-- A field that is mentioned and has no fault has written its blend. -/
theorem Field.exists_write [Processor P] {field : Field} (mentioned : field.mentioned = true)
    {store : Store P} (done : (field.apply store).2 = none) :
    ∃ value wrote, field.blended store = .ok (some value) ∧
      store.write true field.channel value field.terminals =
        ((field.apply store).1, .ok wrote) := by
  rw [apply_eq] at done ⊢
  cases blended : field.blended store with
  | error fault =>
      rw [blended] at done
      cases done
  | ok value? =>
      obtain ⟨value, rfl⟩ := Option.isSome_iff_exists.mp (isSome_of_blended blended mentioned)
      rw [blended] at done
      dsimp only at done ⊢
      rcases written : store.write true field.channel value field.terminals with
        ⟨after, fault | wrote⟩
      · rw [written] at done
        cases done
      · exact ⟨value, wrote, rfl, written⟩

/-- Where one body is blended without a fault in two stores with the same places, it leaves the
same value in every place behind the field. -/
theorem Field.place?_apply_of_alike [Processor P] {field : Field}
    {body : Option Assignments × Float} (only : field.bodies = [body])
    (given : (literal? body.1 field.var field.channel).isSome = true) {left right : Store P}
    (alike : left.Alike right) (leads : terminal ∈ field.terminals)
    (done : (field.apply left).2 = none) :
    (field.apply left).1.place? terminal field.channel =
      (field.apply right).1.place? terminal field.channel := by
  have mentioned : field.mentioned = true := by
    rw [Field.mentioned, only, List.any_cons, given, Bool.true_or]
  have sameOutcome : (field.apply left).2 = (field.apply right).2 := by
    rw [Field.apply, Field.apply, only]
    exact (oblivious_applyChannel body field.type field.var field.terminals field.channel left
      right alike).1
  have sameBlend : field.blended right = field.blended left := by
    rw [blended, blended, only]
    exact blend_single ..
  obtain ⟨value, wrote, blended, written⟩ := field.exists_write mentioned done
  obtain ⟨other, alsoWrote, otherBlended, alsoWritten⟩ :=
    field.exists_write mentioned (sameOutcome.symm.trans done)
  cases (sameBlend.symm.trans otherBlended).symm.trans blended |>.symm
  exact Store.place?_write_of_alike alike written alsoWritten leads

/-- A field with a harmless idle body leaves the same in a place that it touches as it does without
that body from another store, if both hold the same there, or if its blend has no fault. -/
theorem Field.place?_apply_pair [Processor P] {field : Field} {full idle : Option Assignments}
    (isPair : field.bodies = endpoint.pair (full, 1) (idle, 0))
    (given : (literal? full field.var field.channel).isSome = true) {left right : Store P}
    (quiet : field.Quiet left) (alike : left.Alike right) (touches : field.Touches terminal ch)
    (agree : left.place? terminal ch = right.place? terminal ch ∨ (field.apply left).2 = none) :
    (field.apply left).1.place? terminal ch =
      ({ field with bodies := [(full, 1)] }.apply right).1.place? terminal ch := by
  let single : Field := { field with bodies := [(full, 1)] }
  have noDifference : field.apply left = single.apply left := field.apply_pair isPair given quiet
  obtain ⟨leads, rfl, -⟩ := touches
  rw [noDifference] at agree ⊢
  rcases agree with same | done
  · have inStep := (oblivious_applyChannel (full, 1) field.type field.var field.terminals
      field.channel left right alike).2
    rcases inStep terminal field.channel with ⟨keptLeft, keptRight⟩ | equal
    · exact keptLeft.trans (same.trans keptRight.symm)
    · exact equal
  · exact single.place?_apply_of_alike rfl given alike leads done

/-- What touches a place without the idle body touches it with that body. -/
theorem Field.touches_of_pair {field : Field} {full idle : Option Assignments}
    (isPair : field.bodies = endpoint.pair (full, 1) (idle, 0))
    (given : (literal? full field.var field.channel).isSome = true)
    (touches : { field with bodies := [(full, 1)] }.Touches terminal ch) :
    field.Touches terminal ch := by
  obtain ⟨leads, sameChannel, -⟩ := touches
  refine ⟨leads, sameChannel, ?_⟩
  rw [Field.mentioned, isPair, List.any_eq_true]
  exact ⟨(full, 1), Endpoint.mem_pair.mpr (.inl rfl), given⟩

/-- Aligned steps leave the same value in the place if it is settled for the steps of both presets:
at any time both stores hold the same there, or it is going to be overwritten. -/
theorem Aligned.place?_runSteps [Processor P] {both alone : List Step}
    (aligned : Aligned endpoint terminal ch both alone) {left right : Store P}
    (alike : left.Alike right) (settled : Settled terminal ch both left)
    (agree : left.place? terminal ch = right.place? terminal ch ∨
      Overwritten terminal ch both left) :
    (runSteps both left).1.place? terminal ch = (runSteps alone right).1.place? terminal ch := by
  induction aligned generalizing left right with
  | done => exact agree.resolve_right id
  | @left step both alone misses _ inductionHypothesis =>
      refine inductionHypothesis (fun terminal ch => ?_) settled.2 ?_
      · exact (step.alike_run left terminal ch).trans (alike terminal ch)
      · rcases agree with same | now | later
        · exact .inl ((Step.place?_run misses left).trans same)
        · exact absurd now.touches misses
        · exact .inr later
  | @right step both alone misses _ inductionHypothesis =>
      refine inductionHypothesis (fun terminal ch => ?_) settled ?_
      · exact (alike terminal ch).trans (step.alike_run right terminal ch).symm
      · exact agree.imp_left fun same => same.trans (Step.place?_run misses right).symm
  | @idle field full idle both alone isPair missing _ inductionHypothesis =>
      refine inductionHypothesis (fun terminal ch => ?_) settled.2 ?_
      · exact ((Step.blend field).alike_run left terminal ch).trans (alike terminal ch)
      rcases agree with same | ⟨-, weighted, -⟩ | later
      · by_cases touches : field.Touches terminal ch
        · rcases settled.1 touches with calm | later
          · obtain ⟨-, rfl, mentioned⟩ := touches
            exact .inl ((field.place?_apply_of_returns isPair missing mentioned calm).trans same)
          · exact .inr later
        · exact .inl ((field.place?_apply touches left).trans same)
      · rw [weighted_of_pair isPair, missing] at weighted
        cases weighted
      · exact .inr later
  | @paired field full idle both alone isPair given _ inductionHypothesis =>
      let single : Field := { field with bodies := [(full, 1)] }
      refine inductionHypothesis (fun terminal ch => ?_) settled.2 ?_
      · exact ((Step.blend field).alike_run left terminal ch).trans ((alike terminal ch).trans
          ((Step.blend single).alike_run right terminal ch).symm)
      by_cases touches : field.Touches terminal ch
      · rcases settled.1 touches with calm | later
        · -- both stores are met by the same assignments
          rcases agree with same | ⟨-, -, done⟩ | later
          · exact .inl (field.place?_apply_pair isPair given calm.quiet alike touches (.inl same))
          · exact .inl (field.place?_apply_pair isPair given calm.quiet alike touches (.inr done))
          · exact .inr later
        · exact .inr later
      · have alsoMisses : ¬ single.Touches terminal ch := fun alsoTouches =>
          touches (field.touches_of_pair isPair given alsoTouches)
        rcases agree with same | ⟨alsoTouches, -⟩ | later
        · exact .inl ((field.place?_apply touches left).trans
            (same.trans (single.place?_apply alsoMisses right).symm))
        · exact absurd alsoTouches touches
        · exact .inr later

end

end Blend

end SignalNet
