import SignalNet.Proofs.Preset.Settable

/-!
Contract: what can be applied of presets is applied.

An application is refused as a whole, and then nothing happens, or it takes all of its steps.
Each field stores what its own bodies blend to, or nothing; neither the steps before it nor
those after it have a say in that, apart from the values that they leave. The outcome lists
everything that was wrong, and is good exactly if nothing was.

Owns: what it means that presets were applied as far as they can be (`Network.Applied`), and
the law of applications (`presets_best_effort`).
-/

set_option autoImplicit false

namespace SignalNet

variable {P : Type}

namespace Blend

/-- The outcome is that of an application that was refused as a whole. -/
def isRefusal : Except PresetError Unit → Bool
  | .error (.incomplete _ _) => false
  | .error _ => true
  | .ok _ => false

theorem outcome_eq_ok {name : String} {failures : List PresetFailure} :
    outcome name failures = .ok () ↔ failures = [] := by
  cases failures with
  | nil => exact iff_of_true rfl rfl
  | cons failure rest => exact iff_of_false nofun nofun

end Blend

namespace Network

variable [Processor P]

/-- The steps of an application in the present state. -/
def presetSteps (network : Network P) (weights : Weights) (replica : Option Nat) :
    List Blend.Step :=
  Blend.steps weights replica network.level.sites network.store

/-- The cells before a step, after those that come earlier. -/
def storeAfter (network : Network P) (earlier : List Blend.Step) : Store P :=
  (Blend.runSteps earlier network.store).1

/-- Of some presets, everything was applied that can be. -/
structure Applied (network : Network P) (weights : Weights) (replica : Option Nat)
    (name : String) (after : Network P) (outcome : Except PresetError Unit) : Prop where
  /-- All steps were taken in turn, and nothing else was done. -/
  runs : after = { network with store := network.storeAfter (network.presetSteps weights replica) }
  /-- What the steps reported is listed, in their order. -/
  lists : outcome =
    Blend.outcome name (Blend.runSteps (network.presetSteps weights replica) network.store).2
  /-- It is a success exactly if every proc that is meant accepts what is asked of it, and every
  field that is mentioned converts in its turn. -/
  succeeds : outcome = .ok () ↔
    (∀ site ∈ network.level.sites, Blend.targets replica site = true →
        Blend.Accepts site weights network.store) ∧
      ∀ earlier field later,
        network.presetSteps weights replica = earlier ++ .blend field :: later →
          field.mentioned = true → ∃ held, field.Converts (network.storeAfter earlier) held
  /-- There is a field for every channel of every variable that is mentioned for a proc that is
  meant and can be set. -/
  complete : ∀ site ∈ network.level.sites, Blend.targets replica site = true →
    ∀ label ∈ Blend.mentionedLabels (Blend.bodies site weights), ∀ var,
      site.proc.variableIndex? label = some var → site.proc.description.rejects label = false →
        ∀ ch < network.store.channelCount (site.proc.terminals var),
          .blend ⟨site.proc.label, label, ((site.proc.declaration? var).map (·.type)).getD .double,
            site.proc.terminals var, Blend.bodies site weights, ch⟩ ∈
              network.presetSteps weights replica
  /-- Every field did what its own blend asks for. -/
  obeys : ∀ earlier field later,
    network.presetSteps weights replica = earlier ++ .blend field :: later →
      let now := network.storeAfter earlier
      field.Obeys now (field.apply now).1 (field.apply now).2

/-- An application is refused as a whole and changes nothing, or it runs its steps. -/
theorem applyWeights_cases (network : Network P) (weights : Weights) (replica : Option Nat)
    (name : String) :
    let applied := network.applyWeights weights replica name
    Blend.isRefusal applied.2 = true ∧ applied.1 = network ∨
      Blend.isRefusal applied.2 = false ∧
        let run := Blend.runSteps (network.presetSteps weights replica) network.store
        applied = ({ network with store := run.1 }, Blend.outcome name run.2) := by
  intro applied
  have isApplied : applied = network.applyWeights weights replica name := rfl
  unfold applyWeights at isApplied
  split at isApplied
  · exact .inl ⟨by rw [isApplied]; rfl, by rw [isApplied]⟩
  · rw [Blend.applySites_eq_runSteps rfl] at isApplied
    refine .inr ⟨?_, isApplied⟩
    rw [isApplied]
    dsimp only
    unfold Blend.outcome
    split <;> rfl

/-- What is not refused as a whole is applied as far as it can be. -/
theorem applied_of_not_refused {network : Network P} {weights : Weights} {replica : Option Nat}
    (fits : ∀ field, .blend field ∈ network.presetSteps weights replica →
      field.Fits network.store) {name : String} :
    let applied := network.applyWeights weights replica name
    Blend.isRefusal applied.2 = false →
      network.Applied weights replica name applied.1 applied.2 := by
  intro applied notRefused
  rcases network.applyWeights_cases weights replica name with ⟨refused, -⟩ | ⟨-, isRun⟩
  · cases refused.symm.trans notRefused
  · have outcome : applied.2 = _ := congrArg Prod.snd isRun
    refine ⟨congrArg Prod.fst isRun, outcome, ?_, ?_,
      fun earlier field later split => Blend.obeys_of_split fits split⟩
    · rw [outcome, Blend.outcome_eq_ok, Blend.runSteps_silent fits, presetSteps,
        Blend.forall_report_steps]
      rfl
    · intro site listed meant label mentioned var indexed accepted ch below
      exact Blend.blend_mem_steps.mpr
        ⟨site, listed, meant, label, mentioned, var, indexed, accepted, ch, below, rfl⟩

theorem applyWeights_of_refusal {network : Network P} {weights : Weights} {replica : Option Nat}
    {name : String}
    (refused : Blend.isRefusal (network.applyWeights weights replica name).2 = true) :
    (network.applyWeights weights replica name).1 = network := by
  rcases network.applyWeights_cases weights replica name with ⟨-, same⟩ | ⟨applied, -⟩
  · exact same
  · cases refused.symm.trans applied

/-- Weights are refused exactly if nothing resolves one of their labels. -/
theorem isRefusal_applyWeights (network : Network P) (weights : Weights) (replica : Option Nat)
    (name : String) :
    Blend.isRefusal (network.applyWeights weights replica name).2 = true ↔
      ∃ entry ∈ weights, network.hasPreset entry.1 = false := by
  unfold applyWeights
  cases missing : weights.find? fun entry => !network.hasPreset entry.1 with
  | some entry =>
      refine iff_of_true rfl ⟨entry, List.mem_of_find?_eq_some missing, ?_⟩
      simpa using List.find?_some missing
  | none =>
      refine iff_of_false ?_ ?_
      · dsimp only
        unfold Blend.outcome
        split <;> nofun
      · rintro ⟨entry, listed, unknown⟩
        have known := List.find?_eq_none.mp missing entry listed
        simp [unknown] at known

/-- A selector only fails with faults of its own, which refuse the application. -/
theorem isRefusal_of_resolve {selector : PresetSelector} {source : WordSource}
    {fault : PresetError} (failed : (selector.resolve source).1 = .error fault) :
    Blend.isRefusal (.error fault) = true := by
  unfold PresetSelector.resolve at failed
  split at failed
  · cases failed
    rfl
  · dsimp only at failed
    split at failed
    · cases failed
    · split at failed <;> cases failed
      rfl

/-- Whatever applies presets is refused before it looks at the network, or applies weights. -/
theorem perform_preset_cases {network : Network P} {operation : Operation}
    {outcome : Except PresetError Unit} (answered : network.answer operation = .preset outcome) :
    Blend.isRefusal outcome = true ∧ network.perform operation = network ∨
      ∃ weights replica name,
        network.applyWeights weights replica name = (network.perform operation, outcome) := by
  cases operation with
  | cycle => cases answered
  | set label var channel value => cases answered
  | setById id value => cases answered
  | preset label replica =>
      cases answered
      exact .inr ⟨_, _, _, rfl⟩
  | dualPreset first second coefficient replica =>
      cases answered
      rw [perform]
      unfold applyDualPreset
      split
      · exact .inr ⟨_, _, _, rfl⟩
      · exact .inl ⟨rfl, rfl⟩
  | multiPreset selector replica source =>
      cases answered
      rw [perform]
      unfold applySelector
      cases resolved : (selector.resolve source).1 with
      | error fault => exact .inl ⟨isRefusal_of_resolve resolved, rfl⟩
      | ok weights => exact .inr ⟨_, _, _, rfl⟩
  | exchange position device => cases answered

variable [TypedProcessor P] [SteadyProcessor P] {classes : ClassSet P} {template : Template}
  {timing : Timing} {devices : List Device} {network : Network P}

/-- Over native classes that keep banks typed and in shape, as all built-in ones do, in every
state of every built network, for any presets and voices: what is refused as a whole leaves the
network as it was, also where the reason is a coefficient or a selector. Whatever is not refused
applies some weights, and weights are only refused for a label that nothing resolves. They are
applied as far as they can be: every channel that is mentioned for a proc that is meant is stored
exactly if its own blend converts, whatever is wrong elsewhere, and the outcome is good exactly
if nothing was wrong. Presets without entries for variables that procs do not have, or that carry
audio or notes, leave the same cells and the same other failures; without all of them, nothing
else is reported. -/
theorem presets_best_effort (lawful : classes.Lawful)
    (built : Network.build classes template timing devices = .ok network)
    (operations : List Operation) :
    let reached := network.performAll operations
    (∀ operation outcome, reached.answer operation = .preset outcome →
        (Blend.isRefusal outcome = true → reached.perform operation = reached) ∧
          (Blend.isRefusal outcome = false → ∃ weights replica name,
            reached.applyWeights weights replica name =
              (reached.perform operation, outcome))) ∧
      ∀ weights replica name,
        let applied := reached.applyWeights weights replica name
        (Blend.isRefusal applied.2 = true ↔
            ∃ entry ∈ weights, reached.hasPreset entry.1 = false) ∧
          (Blend.isRefusal applied.2 = true → applied.1 = reached) ∧
          (Blend.isRefusal applied.2 = false →
            reached.Applied weights replica name applied.1 applied.2) ∧
          (∀ omission : Omission P,
            let less := (reached.without omission).applyWeights weights replica name
            less.1 = applied.1.without omission ∧
              Blend.others (Blend.reported less.2) = Blend.others (Blend.reported applied.2)) ∧
          Blend.reported ((reached.without .all).applyWeights weights replica name).2 =
            Blend.others (Blend.reported applied.2) := by
  intro reached
  refine ⟨fun operation outcome answered => ⟨fun refused => ?_, fun applies => ?_⟩,
    fun weights replica name => ⟨reached.isRefusal_applyWeights weights replica name,
      applyWeights_of_refusal, ?_,
      fun omission => reached.applyWeights_without omission weights replica name,
      network.reported_without_all built operations weights replica name⟩⟩
  · rcases perform_preset_cases answered with ⟨-, same⟩ | ⟨weights, replica, name, isApplied⟩
    · exact same
    · have same := applyWeights_of_refusal (by rw [isApplied]; exact refused)
      rwa [isApplied] at same
  · rcases perform_preset_cases answered with ⟨refused, -⟩ | applied
    · cases refused.symm.trans applies
    · exact applied
  · exact applied_of_not_refused (Blend.fits_of_mem_steps lawful built operations weights replica)

end Network

namespace Voices

/-- Two voices, with a preset that also asks for a variable that the constant does not have, and
gives a text where it has a number. -/
def faultyTemplate : Template :=
  { Voices.template with presets := [⟨"faulty",
    [("base", .inline ⟨[("pitch", .float 1), ("value", .string "loud")]⟩),
      ("voice", .inline ⟨[("level", .float 0.5)]⟩)]⟩] }

end Voices

namespace Network

/-- Both voices get their level, whatever is wrong with the rest, and it makes no difference
if the variable that the constant does not have is left out. -/
theorem voices_best_effort :
    ∃ network : Network Builtin,
      Network.build Voices.classes Voices.faultyTemplate .standard [] = .ok network ∧
        let reached := network.performAll [.cycle]
        let applied := reached.applyWeights [("faulty", 1)] none "faulty"
        let less := (reached.without .all).applyWeights [("faulty", 1)] none "faulty"
        Blend.reported applied.2 = [⟨"base", "pitch", .unknownVariable⟩,
            ⟨"base", "value", .value (.mismatch .double (.value (.string "loud")))⟩] ∧
          (∀ slot ∈ [1, 2], applied.1.store.place? ⟨slot, 0⟩ 0 = some (.double 0.5)) ∧
            reached.Applied [("faulty", 1)] none "faulty" applied.1 applied.2 ∧
              less.1 = applied.1.without .all ∧
                Blend.reported less.2 = Blend.others (Blend.reported applied.2) := by
  have lawful := (coherent_of_finish Voices.finish_eq).lawful
  have built : Network.build Voices.classes Voices.faultyTemplate .standard [] = .ok _ := rfl
  refine ⟨_, built, by decide +kernel, by decide +kernel, ?_⟩
  obtain ⟨-, -, applies, leftOut, remaining⟩ :=
    (presets_best_effort lawful built [.cycle]).2 [("faulty", 1)] none "faulty"
  exact ⟨applies (by decide +kernel), (leftOut .all).1, remaining⟩

end Network

end SignalNet
