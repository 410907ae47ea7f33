import SignalNet.Proofs.Preset.BestEffort

/-!
Contract: entries of presets that name no proc are passed over in silence.

An application walks over the procs and looks up what a preset has for each of them. It never
walks over the entries. So an entry under a label that no proc of its network has is found from
nowhere: with it and without it, an application takes the same steps, whatever level the entry is
on. An entry that is found is not lost: an application that ends well has stored all that the
entry asks for.

Owns: presets without stray entries (`Network.withoutStray`), what it means that a proc got what
a preset has for it (`Network.Delivered`), and the law of stray entries
(`stray_entries_unnoticed`).
-/

set_option autoImplicit false

namespace SignalNet

variable {P : Type}

/-! ## Presets without stray entries -/

/-- The entry that presets of a network have for a proc. -/
def NetworkPreset.lookup? (presets : List NetworkPreset) (preset label : String) :
    Option PresetEntry :=
  (presets.find? (·.label == preset)).bind (·.find? label)

/-- A preset with those entries only that name one of the procs. -/
def NetworkPreset.onlyFor (procs : List (Proc P)) (preset : NetworkPreset) : NetworkPreset :=
  { preset with entries := preset.entries.filter fun entry => procs.any (·.label == entry.1) }

mutual

/-- The same proc, with presets in it that have no stray entries. -/
def Proc.withoutStray : Proc P → Proc P
  | .native head slot => .native head slot
  | .subnet head procs order presets forwards =>
      .subnet head (procsWithoutStray procs) order
        (presets.map (NetworkPreset.onlyFor procs)) forwards

def procsWithoutStray : List (Proc P) → List (Proc P)
  | [] => []
  | proc :: rest => proc.withoutStray :: procsWithoutStray rest

end

/-- The same level, at every depth with those entries only that name a proc beside them. -/
def Level.withoutStray (level : Level P) : Level P :=
  ⟨procsWithoutStray level.procs, level.order,
    level.presets.map (NetworkPreset.onlyFor level.procs)⟩

def Network.withoutStray (network : Network P) : Network P :=
  { network with level := network.level.withoutStray }

theorem procsWithoutStray_eq_map (procs : List (Proc P)) :
    procsWithoutStray procs = procs.map Proc.withoutStray := by
  induction procs with
  | nil => rfl
  | cons proc rest inductionHypothesis =>
      rw [procsWithoutStray, List.map_cons, inductionHypothesis]

theorem Proc.head_withoutStray (proc : Proc P) : proc.withoutStray.head = proc.head := by
  cases proc <;> rfl

theorem Proc.terminals_withoutStray (proc : Proc P) (var : Nat) :
    proc.withoutStray.terminals var = proc.terminals var := by
  induction proc generalizing var with
  | native head slot => rw [Proc.withoutStray]
  | subnet head procs order presets forwards inductionHypothesis =>
      rw [Proc.withoutStray, Proc.terminals, Proc.terminals]
      refine List.flatMap_congr fun target _ => ?_
      rw [terminalsAt_eq, terminalsAt_eq, procsWithoutStray_eq_map, List.getElem?_map]
      cases found : procs[target.1]? with
      | none => rfl
      | some inner =>
          exact inductionHypothesis inner (List.mem_of_getElem? found) target.2

/-- What presets have for a proc is still there without entries that name no proc. -/
theorem NetworkPreset.lookup?_onlyFor {procs : List (Proc P)} {proc : Proc P}
    (member : proc ∈ procs) (presets : List NetworkPreset) (preset : String) :
    lookup? (presets.map (onlyFor procs)) preset proc.label =
      lookup? presets preset proc.label := by
  rw [lookup?, lookup?, List.find?_map]
  show Option.bind (Option.map _ (presets.find? (·.label == preset))) _ = _
  cases presets.find? (·.label == preset) with
  | none => rfl
  | some found =>
      dsimp only [Option.map_some, Option.bind_some]
      rw [find?, find?, onlyFor, List.find?_filter]
      congr 2
      funext entry
      by_cases same : entry.1 = proc.label
      · simpa [same] using ⟨proc, member, rfl⟩
      · simp [same]

/-- The values of an entry: its own, or those of a preset of the class. -/
def PresetEntry.resolve? (description : ClassDescription P) : PresetEntry → Option Assignments
  | .inline values => some values
  | .named label => description.preset? label

theorem Level.Within.mem_sites {level inside : Level P} (within : level.Within inside)
    {proc : Proc P} (member : proc ∈ inside.procs) : ⟨proc, inside.presets⟩ ∈ level.sites := by
  induction within with
  | self level =>
      rw [Level.sites, sitesOf_eq_flatMap]
      refine List.mem_flatMap.mpr ⟨proc, member, ?_⟩
      cases proc with
      | native head slot => exact List.mem_singleton_self _
      | subnet head procs order presets forwards =>
          exact List.mem_append_right _ (List.mem_singleton_self _)
  | @inner level around below inside isInner isSubnet _ inductionHypothesis =>
      have deeper := inductionHypothesis member
      cases around with
      | native head slot => cases isSubnet
      | subnet head procs order presets forwards =>
          cases isSubnet
          rw [Level.sites, sitesOf_eq_flatMap]
          refine List.mem_flatMap.mpr ⟨_, isInner, ?_⟩
          rw [Proc.sites]
          exact List.mem_append_left _ deeper

/-! ## The steps are the same -/

namespace Blend

theorem body_congr {site other : Site P} (sameHead : other.proc.head = site.proc.head)
    {preset : String}
    (sameEntry : NetworkPreset.lookup? other.presets preset site.proc.label =
      NetworkPreset.lookup? site.presets preset site.proc.label) :
    body other preset = body site preset := by
  have sameLabel : other.proc.label = site.proc.label := congrArg ProcHead.label sameHead
  have sameDescription : other.proc.description = site.proc.description :=
    congrArg ProcHead.description sameHead
  unfold NetworkPreset.lookup? at sameEntry
  rw [body, body, sameLabel, sameDescription, sameEntry]

/-- Where presets have an entry for a proc, its body is what the entry resolves to. -/
theorem exists_of_body_eq_ok {site : Site P} {preset : String} {entry : PresetEntry}
    (found : NetworkPreset.lookup? site.presets preset site.proc.label = some entry)
    {body? : Option Assignments} (isBody : body site preset = .ok body?) :
    ∃ values, entry.resolve? site.proc.description = some values ∧ body? = some values := by
  unfold NetworkPreset.lookup? at found
  rw [body, found] at isBody
  cases entry with
  | inline values =>
      cases isBody
      exact ⟨values, rfl, rfl⟩
  | named label =>
      dsimp only at isBody
      rw [PresetEntry.resolve?]
      cases named : site.proc.description.preset? label with
      | none =>
          rw [named] at isBody
          cases isBody
      | some values =>
          rw [named] at isBody
          cases isBody
          exact ⟨values, rfl, rfl⟩

/-- The steps for a proc depend on its head, on where its variables lead, and on what presets
have for it. -/
theorem siteSteps_congr (site other : Site P) (sameHead : other.proc.head = site.proc.head)
    (sameTerminals : ∀ var, other.proc.terminals var = site.proc.terminals var)
    (sameEntry : ∀ preset, NetworkPreset.lookup? other.presets preset site.proc.label =
      NetworkPreset.lookup? site.presets preset site.proc.label)
    (weights : Weights) (replica : Option Nat) (store : Store P) :
    siteSteps weights replica store other = siteSteps weights replica store site := by
  have sameBody : body other = body site :=
    funext fun preset => body_congr sameHead (sameEntry preset)
  unfold siteSteps targets unresolved bodies variableSteps Proc.variableIndex? Proc.declaration?
    Proc.label Proc.description
  simp only [sameHead, sameBody, sameTerminals]

theorem steps_withoutStray_proc (proc : Proc P) {presets others : List NetworkPreset}
    (sameEntry : ∀ preset, NetworkPreset.lookup? others preset proc.label =
      NetworkPreset.lookup? presets preset proc.label)
    (weights : Weights) (replica : Option Nat) (store : Store P) :
    steps weights replica (proc.withoutStray.sites others) store =
      steps weights replica (proc.sites presets) store := by
  induction proc generalizing presets others with
  | native head slot =>
      rw [Proc.withoutStray, Proc.sites, Proc.sites, steps, steps, List.flatMap_singleton,
        List.flatMap_singleton]
      exact siteSteps_congr ⟨.native head slot, presets⟩ ⟨.native head slot, others⟩ rfl
        (fun _ => rfl) sameEntry weights replica store
  | subnet head procs order inner forwards inductionHypothesis =>
      have here := siteSteps_congr ⟨.subnet head procs order inner forwards, presets⟩
        ⟨(Proc.subnet head procs order inner forwards).withoutStray, others⟩
        (Proc.head_withoutStray _) (Proc.terminals_withoutStray _) sameEntry weights replica store
      rw [Proc.withoutStray] at here ⊢
      rw [Proc.sites, Proc.sites, steps, steps, List.flatMap_append, List.flatMap_append,
        List.flatMap_singleton, List.flatMap_singleton, here, sitesOf_eq_flatMap,
        sitesOf_eq_flatMap, procsWithoutStray_eq_map, List.flatMap_map, List.flatMap_assoc,
        List.flatMap_assoc]
      congr 1
      exact List.flatMap_congr fun proc member => inductionHypothesis proc member
        (NetworkPreset.lookup?_onlyFor member inner)

theorem steps_withoutStray (level : Level P) (weights : Weights) (replica : Option Nat)
    (store : Store P) :
    steps weights replica level.withoutStray.sites store =
      steps weights replica level.sites store := by
  rw [Level.sites, Level.sites, Level.withoutStray, sitesOf_eq_flatMap, sitesOf_eq_flatMap,
    procsWithoutStray_eq_map, steps, steps, List.flatMap_map, List.flatMap_assoc,
    List.flatMap_assoc]
  exact List.flatMap_congr fun proc member => steps_withoutStray_proc proc
    (NetworkPreset.lookup?_onlyFor member level.presets) weights replica store

/-! ## What is reported is about procs -/

/-- The label of the proc that a step is for. -/
def Step.subject : Step → String
  | .report failure => failure.proc
  | .blend field => field.proc

theorem subject_of_mem_variableSteps {proc : Proc P} {bodies : WeightedBodies} {store : Store P}
    {label : String} {step : Step} (member : step ∈ variableSteps proc bodies store label) :
    step.subject = proc.label := by
  unfold variableSteps at member
  split at member
  · rw [List.mem_singleton.mp member]
    rfl
  · dsimp only at member
    split at member
    · rw [List.mem_singleton.mp member]
      rfl
    · rcases List.mem_append.mp member with isReport | isBlend
      · obtain ⟨fault, -, rfl⟩ := List.mem_map.mp isReport
        rfl
      · obtain ⟨ch, -, rfl⟩ := List.mem_map.mp isBlend
        rfl

theorem exists_site_of_mem_steps {weights : Weights} {replica : Option Nat}
    {sites : List (Site P)} {store : Store P} {step : Step}
    (member : step ∈ steps weights replica sites store) :
    ∃ site ∈ sites, step.subject = site.proc.label := by
  obtain ⟨site, listed, ofSite⟩ := List.mem_flatMap.mp member
  refine ⟨site, listed, ?_⟩
  unfold siteSteps at ofSite
  split at ofSite
  · rcases List.mem_append.mp ofSite with isReport | ofVariable
    · obtain ⟨failure, isUnresolved, rfl⟩ := List.mem_map.mp isReport
      obtain ⟨entry, -, isFailure⟩ := List.mem_filterMap.mp isUnresolved
      dsimp only at isFailure
      split at isFailure <;> cases isFailure
      rfl
    · obtain ⟨label, -, isStep⟩ := List.mem_flatMap.mp ofVariable
      exact subject_of_mem_variableSteps isStep
  · cases ofSite

variable [Processor P]

theorem exists_step_of_reported {steps : List Step} {store : Store P} {failure : PresetFailure}
    (reported : failure ∈ (runSteps steps store).2) :
    ∃ step ∈ steps, step.subject = failure.proc := by
  induction steps generalizing store with
  | nil => cases reported
  | cons step rest inductionHypothesis =>
      rcases List.mem_append.mp reported with now | further
      · refine ⟨step, List.mem_cons_self, ?_⟩
        cases step with
        | report other =>
            rw [List.mem_singleton.mp now]
            rfl
        | blend field =>
            obtain ⟨fault, -, rfl⟩ := List.mem_map.mp now
            rfl
      · obtain ⟨other, member, same⟩ := inductionHypothesis further
        exact ⟨other, List.mem_cons_of_mem _ member, same⟩

omit [Processor P] in
theorem reported_of_refusal {outcome : Except PresetError Unit}
    (refused : isRefusal outcome = true) : reported outcome = [] := by
  unfold reported
  split
  · cases refused
  · rfl

/-- A field without a fault that some body mentions has stored its blend wherever there is a
place for it. -/
theorem Field.stored_of_faultless {field : Field} {store : Store P}
    (faultless : (field.apply store).2 = none) (mentioned : field.mentioned = true) :
    ∃ value, field.blended store = .ok (some value) ∧
      ∀ terminal ∈ field.terminals, ∀ place, store.place? terminal field.channel = some place →
        ∃ held, value.convert place.type = .ok held ∧
          (field.apply store).1.place? terminal field.channel = some held := by
  rw [apply_eq] at faultless ⊢
  cases blended : field.blended store with
  | error fault =>
      rw [blended] at faultless
      cases faultless
  | ok value? =>
      obtain ⟨value, rfl⟩ := Option.isSome_iff_exists.mp (isSome_of_blended blended mentioned)
      rw [blended] at faultless
      dsimp only at faultless ⊢
      refine ⟨value, rfl, fun terminal member place there => ?_⟩
      rcases completed : store.write true field.channel value field.terminals with
        ⟨after, fault | wrote⟩
      · rw [completed] at faultless
        cases faultless
      · obtain ⟨held, heldThere, converted⟩ := Store.place?_write completed member there
        exact ⟨held, converted, heldThere⟩

end Blend

/-! ## Applications -/

theorem anyResolves_withoutStray {preset : String} {procs : List (Proc P)}
    (each : ∀ proc ∈ procs, proc.withoutStray.resolves preset = proc.resolves preset) :
    anyResolves preset (procsWithoutStray procs) = anyResolves preset procs := by
  induction procs with
  | nil => rfl
  | cons proc rest inductionHypothesis =>
      rw [procsWithoutStray, anyResolves, anyResolves, each proc List.mem_cons_self,
        inductionHypothesis fun other member => each other (List.mem_cons_of_mem _ member)]

theorem NetworkPreset.any_onlyFor (procs : List (Proc P)) (presets : List NetworkPreset)
    (preset : String) :
    (presets.map (onlyFor procs)).any (·.label == preset) = presets.any (·.label == preset) :=
  List.any_map

theorem Proc.resolves_withoutStray (proc : Proc P) (preset : String) :
    proc.withoutStray.resolves preset = proc.resolves preset := by
  induction proc with
  | native head slot => rw [Proc.withoutStray]
  | subnet head procs order presets forwards inductionHypothesis =>
      rw [Proc.withoutStray, Proc.resolves, Proc.resolves, NetworkPreset.any_onlyFor,
        anyResolves_withoutStray inductionHypothesis]

namespace Network

theorem hasPreset_withoutStray (network : Network P) (preset : String) :
    network.withoutStray.hasPreset preset = network.hasPreset preset := by
  show network.level.withoutStray.resolves preset = network.level.resolves preset
  rw [Level.resolves, Level.resolves, Level.withoutStray, NetworkPreset.any_onlyFor,
    anyResolves_withoutStray fun proc _ => proc.resolves_withoutStray preset]

variable [Processor P]

theorem applyWeights_withoutStray (network : Network P) (weights : Weights)
    (replica : Option Nat) (name : String) :
    let applied := network.applyWeights weights replica name
    network.withoutStray.applyWeights weights replica name =
      (applied.1.withoutStray, applied.2) := by
  have sameRun : Blend.applySites weights replica network.level.withoutStray.sites network.store =
      Blend.applySites weights replica network.level.sites network.store := by
    rw [Blend.applySites_eq_runSteps rfl, Blend.applySites_eq_runSteps rfl,
      Blend.steps_withoutStray]
  unfold applyWeights
  simp only [network.hasPreset_withoutStray]
  split
  · rfl
  · show _ = _
    simp only [Network.withoutStray, sameRun]

/-- A proc got what one preset has for it: it accepts all of it, and for every channel of every
variable that is mentioned there was a step which stored the blend in all places behind it. -/
structure Delivered (network : Network P) (label : String) (site : Site P) : Prop where
  accepts : Blend.Accepts site [(label, 1)] network.store
  stores : ∀ var ∈ Blend.mentionedLabels (Blend.bodies site [(label, 1)]), ∀ index,
    site.proc.variableIndex? var = some index →
      ∀ ch < network.store.channelCount (site.proc.terminals index),
        let field : Blend.Field := ⟨site.proc.label, var,
          ((site.proc.declaration? index).map (·.type)).getD .double,
          site.proc.terminals index, Blend.bodies site [(label, 1)], ch⟩
        ∃ earlier later,
          network.presetSteps [(label, 1)] none = earlier ++ .blend field :: later ∧
            (field.mentioned = true → ∃ value,
              field.blended (network.storeAfter earlier) = .ok (some value) ∧
                ∀ terminal ∈ field.terminals, ∀ place,
                  (network.storeAfter earlier).place? terminal ch = some place →
                    ∃ held, value.convert place.type = .ok held ∧
                      (network.storeAfter (earlier ++ [.blend field])).place? terminal ch =
                        some held)

/-- What is reported comes from a step of the application. -/
theorem exists_step_of_reported {network : Network P} {weights : Weights}
    {replica : Option Nat} {name : String} {failure : PresetFailure}
    (reported : failure ∈ Blend.reported (network.applyWeights weights replica name).2) :
    ∃ step ∈ network.presetSteps weights replica, step.subject = failure.proc := by
  rcases network.applyWeights_cases weights replica name with ⟨refused, -⟩ | ⟨-, isRun⟩
  · rw [Blend.reported_of_refusal refused] at reported
    cases reported
  · rw [isRun] at reported
    dsimp only at reported
    rw [Blend.reported_outcome] at reported
    exact Blend.exists_step_of_reported reported

/-- An application with a good outcome was not refused, and no step reported anything. -/
theorem silent_of_ok {network : Network P} {weights : Weights} {replica : Option Nat}
    {name : String} (succeeded : (network.applyWeights weights replica name).2 = .ok ()) :
    (Blend.runSteps (network.presetSteps weights replica) network.store).2 = [] := by
  rcases network.applyWeights_cases weights replica name with ⟨refused, -⟩ | ⟨-, isRun⟩
  · rw [succeeded] at refused
    cases refused
  · rw [isRun] at succeeded
    exact Blend.outcome_eq_ok.mp succeeded

theorem storeAfter_append_blend (network : Network P) (earlier : List Blend.Step)
    (field : Blend.Field) :
    network.storeAfter (earlier ++ [.blend field]) =
      (field.apply (network.storeAfter earlier)).1 := by
  rw [storeAfter, Blend.runSteps_append]
  rfl

/-- An application that reports nothing has given every proc what the preset has for it. -/
theorem delivered_of_silent {network : Network P} {label : String}
    (silent : (Blend.runSteps (network.presetSteps [(label, 1)] none) network.store).2 = [])
    {site : Site P} (listed : site ∈ network.level.sites) : network.Delivered label site := by
  have inTurn := Blend.runSteps_snd_eq_nil.mp silent
  have noReport : ∀ failure, .report failure ∉ network.presetSteps [(label, 1)] none := by
    intro failure isReport
    obtain ⟨earlier, later, split⟩ := List.append_of_mem isReport
    cases inTurn earlier _ later split
  have accepts : Blend.Accepts site [(label, 1)] network.store :=
    Blend.forall_report_steps.mp noReport site listed rfl
  refine ⟨accepts, fun var mentioned index indexed ch below => ?_⟩
  intro field
  have isField : .blend field ∈ network.presetSteps [(label, 1)] none :=
    Blend.blend_mem_steps.mpr ⟨site, listed, rfl, var, mentioned, index, indexed,
      accepts.settable var mentioned, ch, below, rfl⟩
  obtain ⟨earlier, later, split⟩ := List.append_of_mem isField
  refine ⟨earlier, later, split, fun given => ?_⟩
  have faultless := inTurn earlier _ later split
  rw [Blend.Step.run, List.map_eq_nil_iff, Option.toList_eq_nil_iff] at faultless
  rw [storeAfter_append_blend]
  exact Blend.Field.stored_of_faultless faultless given

/-- In every network and state, for every preset that is applied to all procs: whatever is
reported is reported of a proc that there is, on some level. Entries that name no proc beside
them, on any level, make no difference: without them the outcome is the same, and so is everything
that the network holds afterwards. Entries that name one are not lost: where the outcome is good,
such an entry resolves to values, and each proc with its label got all of them. -/
theorem stray_entries_unnoticed (network : Network P) (label : String) :
    let applied := network.applyPreset label none
    (∀ failure ∈ Blend.reported applied.2, ∃ inside, network.level.Within inside ∧
        ∃ proc ∈ inside.procs, failure.proc = proc.label) ∧
      network.withoutStray.applyPreset label none = (applied.1.withoutStray, applied.2) ∧
      (applied.2 = .ok () → ∀ inside, network.level.Within inside → ∀ proc ∈ inside.procs,
        ∀ entry, NetworkPreset.lookup? inside.presets label proc.label = some entry →
          ∃ values, entry.resolve? proc.description = some values ∧
            Blend.body ⟨proc, inside.presets⟩ label = .ok (some values) ∧
              network.Delivered label ⟨proc, inside.presets⟩) := by
  intro applied
  refine ⟨fun failure reported => ?_, network.applyWeights_withoutStray _ _ _,
    fun succeeded inside within proc member entry found => ?_⟩
  · obtain ⟨step, isStep, same⟩ := exists_step_of_reported reported
    obtain ⟨site, listed, ofSite⟩ := Blend.exists_site_of_mem_steps isStep
    obtain ⟨inside, within, member, -⟩ := Level.exists_within_of_mem_sites listed
    exact ⟨inside, within, site.proc, member, same.symm.trans ofSite⟩
  · have delivered : network.Delivered label ⟨proc, inside.presets⟩ :=
      delivered_of_silent (silent_of_ok succeeded) (within.mem_sites member)
    obtain ⟨body?, isBody⟩ := delivered.accepts.resolves label (List.mem_singleton_self _)
    obtain ⟨values, resolved, rfl⟩ := Blend.exists_of_body_eq_ok found isBody
    exact ⟨values, resolved, isBody, delivered⟩

end Network

namespace Strays

/-- A subnet around a constant, with a preset that misspells the label of the constant. -/
def voice : ClassDescription Builtin :=
  ⟨"voice", [⟨"level", "", some .double, .empty, none, true, some ⟨"inner", "value"⟩⟩], [],
    .subnet ⟨[⟨"inner", "number", .empty, [], none, none, none⟩],
      [⟨"soft", [("iner", .inline ⟨[("value", .float 3)]⟩)]⟩]⟩, none⟩

def classes : ClassSet Builtin := ⟨Build.constants.classes ++ [voice]⟩

/-- Two voices, with a preset that has an entry for both and one for no proc. -/
def template : Template :=
  ⟨[⟨"voice", "voice", .empty, [], none, some 2, none⟩],
    [⟨"soft", [("voice", .inline ⟨[("level", .float 0.5)]⟩),
      ("vioce", .inline ⟨[("level", .float 2)]⟩)]⟩]⟩

end Strays

namespace Network

/-- Both voices get their level, and nothing is different without the entries that name no
proc. -/
theorem strays_left_out :
    ∃ network : Network Builtin,
      Network.build Strays.classes Strays.template .standard [] = .ok network ∧
        let applied := network.applyPreset "soft" none
        applied.2 = .ok () ∧
          (∀ slot ∈ [0, 1], applied.1.store.place? ⟨slot, 0⟩ 0 = some (.double 0.5)) ∧
            (∃ proc ∈ network.level.procs, proc.label = "voice" ∧
              network.Delivered "soft" ⟨proc, network.level.presets⟩) ∧
              network.withoutStray.applyPreset "soft" none = (applied.1.withoutStray, .ok ()) := by
  have built : Network.build Strays.classes Strays.template .standard [] = .ok _ := rfl
  refine ⟨_, built, rfl, by decide +kernel, ⟨_, List.mem_of_getElem? (i := 0) rfl, rfl, ?_⟩,
    (stray_entries_unnoticed _ "soft").2.1⟩
  refine Exists.elim ((stray_entries_unnoticed _ "soft").2.2 rfl _ (.self _) _ ?_
    (.inline ⟨[("level", .float 0.5)]⟩) ?_) fun values got => got.2.2
  · exact List.mem_of_getElem? (i := 0) rfl
  · rfl

/-- A preset with entries that name no proc, on the outer level and inside a subnet, is applied
with a good outcome. -/
theorem misspelt_entries_pass :
    ∃ (network : Network Builtin) (inside : Level Builtin),
      Network.build Strays.classes Strays.template .standard [] = .ok network ∧
        network.level.Within inside ∧
          (NetworkPreset.lookup? network.level.presets "soft" "vioce").isSome = true ∧
            (NetworkPreset.lookup? inside.presets "soft" "iner").isSome = true ∧
              (∀ site ∈ network.level.sites, site.proc.label ∉ ["vioce", "iner"]) ∧
                (network.applyPreset "soft" none).2 = .ok () := by
  have built : Network.build Strays.classes Strays.template .standard [] = .ok _ := rfl
  exact ⟨_, _, built, .inner (List.mem_of_getElem? (i := 0) rfl) rfl (.self _), rfl, rfl,
    by decide +kernel, rfl⟩

end Network

end SignalNet
