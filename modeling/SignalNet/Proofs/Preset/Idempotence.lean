import SignalNet.Preset.Apply
import SignalNet.Proofs.Network.Addresses
import SignalNet.Proofs.Network.Oblivious

/-!
Contract: a preset that is applied twice does what it does once.

A blend takes the live value of a channel where a preset does not mention it. With one
preset that makes no difference: a channel that it mentions gets the literal, and all others
are left alone. So an application of one preset is a sequence of writes whose values and
failures do not depend on the values that are there, in whatever order they go and however
many of them meet in one place. Such a sequence is idempotent.

Owns: that every stage of an application of one preset is oblivious, and the law of repeated
applications (`preset_twice_as_once`).
-/

set_option autoImplicit false

namespace SignalNet

variable {P : Type}

namespace Blend

open Store

/-- One body blends to its literal, or to nothing, whatever the live value is. -/
theorem blend_single (type : ValueType) (label : String) (ch : Nat) (live other : Value)
    (body : Option Assignments × Float) :
    blend type label ch live [body] = blend type label ch other [body] := by
  unfold blend
  rw [List.mapM_cons, List.mapM_cons, contribution, contribution]
  cases literal? body.1 label ch with
  | some literal => rfl
  | none => rfl

/-- From stores that are alike, a channel for which the same is blended goes on in step. -/
theorem inStep_applyChannel [Processor P] {left right : Store P} (alike : left.Alike right)
    {type : ValueType} {label : String} {terminals : List Terminal} {bodies : WeightedBodies}
    {ch : Nat}
    (same : blend type label ch ((left.value? terminals ch).getD (Value.zero type)) bodies =
      blend type label ch ((right.value? terminals ch).getD (Value.zero type)) bodies) :
    (applyChannel type label terminals bodies left ch).2 =
        (applyChannel type label terminals bodies right ch).2 ∧
      InStep left right (applyChannel type label terminals bodies left ch).1
        (applyChannel type label terminals bodies right ch).1 := by
  unfold applyChannel
  rw [same]
  cases blend type label ch ((right.value? terminals ch).getD (Value.zero type)) bodies with
  | error fault => exact ⟨rfl, .refl left right⟩
  | ok value? =>
      cases value? with
      | none => exact ⟨rfl, .refl left right⟩
      | some value =>
          obtain ⟨same, inStep⟩ := oblivious_write true ch value terminals left right alike
          dsimp only at same inStep ⊢
          rcases leftWrite : left.write true ch value terminals with ⟨leftAfter, outcome⟩
          rcases rightWrite : right.write true ch value terminals with ⟨rightAfter, other⟩
          rw [leftWrite, rightWrite] at same inStep
          obtain rfl : outcome = other := same
          cases outcome with
          | error fault => exact ⟨rfl, inStep⟩
          | ok present => exact ⟨rfl, inStep⟩

/-! ## Stages of an application of one body -/

variable [Processor P] (body : Option Assignments × Float)

theorem oblivious_applyChannel (type : ValueType) (label : String) (terminals : List Terminal)
    (ch : Nat) :
    Oblivious fun store : Store P => applyChannel type label terminals [body] store ch := by
  intro left right alike
  -- the live values may differ, the blended ones do not
  exact inStep_applyChannel alike (blend_single type label ch _ _ body)

theorem oblivious_applyChannels (type : ValueType) (label : String) (terminals : List Terminal)
    (channels : List Nat) :
    Oblivious fun store : Store P =>
      applyChannels type label terminals [body] channels store := by
  induction channels with
  | nil => exact .idle []
  | cons ch rest inductionHypothesis =>
      exact (oblivious_applyChannel body type label terminals ch).andThen inductionHypothesis
        fun fault? faults => fault?.toList ++ faults

theorem oblivious_applyVariable (proc : Proc P) (label : String) :
    Oblivious fun store : Store P => applyVariable proc [body] label store := by
  unfold applyVariable
  cases proc.variableIndex? label with
  | none => exact .idle _
  | some var =>
      dsimp only
      split
      · exact .idle _
      · -- the channels are counted in the store, with the same count from both
        intro left right alike
        dsimp only
        rw [alike.channelCount_eq]
        exact (oblivious_applyChannels body _ label (proc.terminals var) _).map
          (fun faults => surplus label (right.channelCount (proc.terminals var)) [body] ++
            faults.map .value) left right alike

theorem oblivious_applyVariables (proc : Proc P) (labels : List String) :
    Oblivious fun store : Store P => applyVariables proc [body] labels store := by
  induction labels with
  | nil => exact .idle []
  | cons label rest inductionHypothesis =>
      exact (oblivious_applyVariable body proc label).andThen inductionHypothesis
        fun faults failures => faults.map (PresetFailure.mk proc.label label) ++ failures

/-! ## One preset in a network -/

variable (preset : String) (weight : Float) (replica : Option Nat)

theorem oblivious_applySite (site : Site P) :
    Oblivious fun store : Store P => applySite [(preset, weight)] replica site store := by
  unfold applySite
  split
  · exact (oblivious_applyVariables _ site.proc _).map
      fun failures => unresolved site [(preset, weight)] ++ failures
  · exact .idle []

theorem oblivious_applySites (sites : List (Site P)) :
    Oblivious fun store : Store P => applySites [(preset, weight)] replica sites store := by
  induction sites with
  | nil => exact .idle []
  | cons site rest inductionHypothesis =>
      exact (oblivious_applySite preset weight replica site).andThen inductionHypothesis
        fun failures further => failures ++ further

end Blend

namespace Network

variable [Processor P]

theorem applyPreset_of_unknown {network : Network P} {label : String}
    (unknown : network.hasPreset label = false) (replica : Option Nat) :
    network.applyPreset label replica = (network, .error (.unknownPreset label)) := by
  rw [applyPreset, applyWeights, List.find?_cons_of_pos (by rw [unknown]; rfl)]

theorem applyPreset_of_known {network : Network P} {label : String}
    (known : network.hasPreset label = true) (replica : Option Nat) :
    network.applyPreset label replica =
      let applied := Blend.applySites [(label, 1)] replica network.level.sites network.store
      ({ network with store := applied.1 }, Blend.outcome label applied.2) := by
  rw [applyPreset, applyWeights, List.find?_cons_of_neg (by rw [known]; exact Bool.false_ne_true)]
  rfl

/-- A preset that is applied twice, to all procs or to one voice, has the same result both
times, with the same failures in the same order. The second time changes no bank at any depth,
and nothing else but the processors that are told of assignments. This holds in every state of
every network: also where some of the preset cannot be applied, and where several variables
forward to one. -/
theorem preset_twice_as_once (network : Network P) (label : String) (replica : Option Nat) :
    let once := network.applyPreset label replica
    let twice := once.1.applyPreset label replica
    twice.2 = once.2 ∧ (∀ slot, twice.1.store.bank? slot = once.1.store.bank? slot) ∧
      twice.1 = { once.1 with store := twice.1.store } := by
  intro once twice
  cases known : network.hasPreset label with
  | false =>
      have isOnce : once = (network, .error (.unknownPreset label)) :=
        applyPreset_of_unknown known replica
      have isTwice : twice = once := by
        show once.1.applyPreset label replica = once
        rw [isOnce]
        exact applyPreset_of_unknown known replica
      rw [isTwice]
      exact ⟨rfl, fun slot => rfl, rfl⟩
  | true =>
      let apply := Blend.applySites [(label, 1)] replica network.level.sites
      have isOnce : once = ({ network with store := (apply network.store).1 },
          Blend.outcome label (apply network.store).2) := applyPreset_of_known known replica
      have isTwice : twice = ({ network with store := (apply (apply network.store).1).1 },
          Blend.outcome label (apply (apply network.store).1).2) := by
        show once.1.applyPreset label replica = _
        rw [isOnce]
        exact applyPreset_of_known (by exact known) replica
      have written := Blend.written_applySites [(label, 1)] replica network.level.sites
      obtain ⟨same, places⟩ :=
        (Blend.oblivious_applySites label 1 replica network.level.sites).again
          (written network.store).alike
      rw [isTwice, isOnce]
      exact ⟨congrArg (Blend.outcome label) same, (written _).bank?_eq places, rfl⟩

end Network

end SignalNet
