import SignalNet.Proofs.Network.Replicas
import SignalNet.Proofs.Preset.Fields

/-!
Contract: an application of presets is a fixed list of steps.

Which channels are blended, and what is reported of the presets themselves, depends on the procs
and on the shapes of their banks only, and assignments change neither. So the steps can be
listed before the first one is made. A step that fails does not change what the later ones are;
each goes by the values that it finds.

Owns: steps, that an application runs them in turn (`applySites_eq_runSteps`), what presets ask
of procs (`Accepts`), and which steps there are.
-/

set_option autoImplicit false

namespace SignalNet

variable {P : Type}

namespace Blend

/-! ## Steps of an application -/

/-- Something that is wrong with the presets is reported, or a field is blended. -/
inductive Step where
  | report (failure : PresetFailure)
  | blend (field : Field)

/-- The steps for a variable that some bodies mention. -/
def variableSteps (proc : Proc P) (bodies : WeightedBodies) (store : Store P)
    (label : String) : List Step :=
  let report := fun fault => Step.report ⟨proc.label, label, fault⟩
  match proc.variableIndex? label with
  | none => [report .unknownVariable]
  | some var =>
      let type := ((proc.declaration? var).map (·.type)).getD .double
      if type.isSignal then [report (.signalVariable type)]
      else
        let terminals := proc.terminals var
        let count := store.channelCount terminals
        (surplus label count bodies).map report ++ (List.range count).map fun ch =>
          .blend ⟨proc.label, label, type, terminals, bodies, ch⟩

def siteSteps (weights : Weights) (replica : Option Nat) (store : Store P) (site : Site P) :
    List Step :=
  if targets replica site then
    (unresolved site weights).map .report ++
      (mentionedLabels (bodies site weights)).flatMap
        (variableSteps site.proc (bodies site weights) store)
  else []

/-- The steps for all procs, in order. -/
def steps (weights : Weights) (replica : Option Nat) (sites : List (Site P)) (store : Store P) :
    List Step :=
  sites.flatMap (siteSteps weights replica store)

section

variable [Processor P]

def Step.run (store : Store P) : Step → Store P × List PresetFailure
  | .report failure => (store, [failure])
  | .blend field => ((field.apply store).1, (field.apply store).2.toList.map field.failure)

/-- Take steps in turn, and list the failures. -/
def runSteps : List Step → Store P → Store P × List PresetFailure
  | [], store => (store, [])
  | step :: rest, store =>
      let (written, failures) := step.run store
      let (written, further) := runSteps rest written
      (written, failures ++ further)

theorem runSteps_append (first second : List Step) (store : Store P) :
    runSteps (first ++ second) store =
      ((runSteps second (runSteps first store).1).1,
        (runSteps first store).2 ++ (runSteps second (runSteps first store).1).2) := by
  induction first generalizing store with
  | nil => rfl
  | cons step rest inductionHypothesis =>
      simp only [List.cons_append, runSteps, inductionHypothesis, List.append_assoc]

theorem runSteps_reports (failures : List PresetFailure) (store : Store P) :
    runSteps (failures.map .report) store = (store, failures) := by
  induction failures with
  | nil => rfl
  | cons failure rest inductionHypothesis =>
      simp only [List.map_cons, runSteps, Step.run, inductionHypothesis, List.singleton_append]

theorem written_runSteps (steps : List Step) (store : Store P) :
    Store.Written (fun _ => True) store (runSteps steps store).1 := by
  induction steps generalizing store with
  | nil => exact .refl
  | cons step rest inductionHypothesis =>
      have first : Store.Written (fun _ => True) store (step.run store).1 := by
        cases step with
        | report failure => exact .refl
        | blend field =>
            exact (written_applyChannel field.type field.var field.terminals field.bodies store
              field.channel).mono fun _ _ => trivial
      exact first.trans (inductionHypothesis _)

/-- A run reports nothing exactly if no step does in its turn. -/
theorem runSteps_snd_eq_nil {steps : List Step} {store : Store P} :
    (runSteps steps store).2 = [] ↔ ∀ earlier step later, steps = earlier ++ step :: later →
      (step.run (runSteps earlier store).1).2 = [] := by
  induction steps generalizing store with
  | nil => exact iff_of_true rfl fun earlier step later split => by cases earlier <;> cases split
  | cons first rest inductionHypothesis =>
      simp only [runSteps, List.append_eq_nil_iff, inductionHypothesis]
      constructor
      · rintro ⟨now, others⟩ earlier step later split
        cases earlier with
        | nil =>
            cases split
            exact now
        | cons head tail =>
            cases split
            exact others tail step later rfl
      · exact fun each => ⟨each [] first rest rfl, fun earlier step later split =>
          each (first :: earlier) step later (by rw [split, List.cons_append])⟩

/-! ## Applications run their steps -/

theorem applyChannels_eq_runSteps (proc var : String) (type : ValueType)
    (terminals : List Terminal) (bodies : WeightedBodies) (channels : List Nat)
    (store : Store P) :
    let applied := applyChannels type var terminals bodies channels store
    runSteps (channels.map fun ch => .blend ⟨proc, var, type, terminals, bodies, ch⟩) store =
      (applied.1, applied.2.map fun fault => ⟨proc, var, .value fault⟩) := by
  induction channels generalizing store with
  | nil => rfl
  | cons ch rest inductionHypothesis =>
      simp only [List.map_cons, runSteps, Step.run, Field.apply, applyChannels, List.map_append]
      rw [inductionHypothesis]
      rfl

theorem applyVariable_eq_runSteps {start store : Store P} (sameShape : store.shape = start.shape)
    (proc : Proc P) (bodies : WeightedBodies) (label : String) :
    runSteps (variableSteps proc bodies start label) store =
      ((applyVariable proc bodies label store).1,
        (applyVariable proc bodies label store).2.map (PresetFailure.mk proc.label label)) := by
  unfold variableSteps applyVariable
  cases proc.variableIndex? label with
  | none => rfl
  | some var =>
      dsimp only
      split
      · rfl
      · have asReports : (surplus label (start.channelCount (proc.terminals var)) bodies).map
            (fun fault => Step.report ⟨proc.label, label, fault⟩) =
            ((surplus label (start.channelCount (proc.terminals var)) bodies).map
              (PresetFailure.mk proc.label label)).map .report := by
          rw [List.map_map]
          rfl
        rw [asReports, runSteps_append, runSteps_reports, applyChannels_eq_runSteps,
          Store.channelCount_congr sameShape, List.map_append, List.map_map]
        rfl

theorem applyVariables_eq_runSteps {start store : Store P}
    (sameShape : store.shape = start.shape) (proc : Proc P) (bodies : WeightedBodies)
    (labels : List String) :
    applyVariables proc bodies labels store =
      runSteps (labels.flatMap (variableSteps proc bodies start)) store := by
  induction labels generalizing store with
  | nil => rfl
  | cons label rest inductionHypothesis =>
      have shapeAfter : (applyVariable proc bodies label store).1.shape = start.shape :=
        (written_applyVariable proc bodies label store).shape_eq.trans sameShape
      simp only [applyVariables, List.flatMap_cons, runSteps_append,
        applyVariable_eq_runSteps sameShape, inductionHypothesis shapeAfter]

/-- An application runs its steps, as they are listed in any store with the same shape. -/
theorem applySites_eq_runSteps {start store : Store P} (sameShape : store.shape = start.shape)
    (weights : Weights) (replica : Option Nat) (sites : List (Site P)) :
    applySites weights replica sites store =
      runSteps (steps weights replica sites start) store := by
  induction sites generalizing store with
  | nil => rfl
  | cons site rest inductionHypothesis =>
      have first : applySite weights replica site store =
          runSteps (siteSteps weights replica start site) store := by
        unfold applySite siteSteps
        split
        · rw [applyBodies, applyVariables_eq_runSteps sameShape, runSteps_append,
            runSteps_reports]
        · rfl
      have shapeAfter : (applySite weights replica site store).1.shape = start.shape := by
        rw [first]
        exact (written_runSteps _ store).shape_eq.trans sameShape
      rw [first] at shapeAfter
      simp only [steps] at inductionHypothesis
      simp only [applySites, steps, List.flatMap_cons, runSteps_append, first,
        inductionHypothesis shapeAfter]

end

end Blend

/-! ## What presets ask for -/

/-- No preset can set the variable that a label names: there is none, or it carries audio or
notes. -/
def ClassDescription.rejects (description : ClassDescription P) (label : String) : Bool :=
  match description.variableIndex? label with
  | none => true
  | some var => ((description.vars[var]?.map Declaration.type).getD .double).isSignal

theorem Proc.rejects_of_none {proc : Proc P} {label : String}
    (absent : proc.variableIndex? label = none) : proc.description.rejects label = true := by
  rw [variableIndex?] at absent
  rw [ClassDescription.rejects, absent]

theorem Proc.rejects_of_some {proc : Proc P} {label : String} {var : Nat}
    (indexed : proc.variableIndex? label = some var) :
    proc.description.rejects label =
      (((proc.declaration? var).map Declaration.type).getD .double).isSignal := by
  rw [variableIndex?] at indexed
  rw [ClassDescription.rejects, indexed]
  rfl

namespace Blend

/-- All that presets ask of a proc can be asked: they resolve, and every variable that they
mention can be set and has as many channels as a list for it has values. -/
structure Accepts (site : Site P) (weights : Weights) (store : Store P) : Prop where
  resolves : ∀ preset ∈ weights.map (·.1), ∃ body?, body site preset = .ok body?
  settable : ∀ label ∈ mentionedLabels (bodies site weights),
    site.proc.description.rejects label = false
  short : ∀ label ∈ mentionedLabels (bodies site weights), ∀ var,
    site.proc.variableIndex? label = some var → ∀ values ∈ bodies site weights, ∀ length,
      (values.1.bind (·.get? label)).bind (·.listLength?) = some length →
        length ≤ store.channelCount (site.proc.terminals var)

theorem unresolved_eq_nil {site : Site P} {weights : Weights} :
    unresolved site weights = [] ↔
      ∀ preset ∈ weights.map (·.1), ∃ body?, body site preset = .ok body? := by
  rw [unresolved, List.filterMap_eq_nil_iff, List.forall_mem_map]
  refine forall₂_congr fun entry _ => ?_
  dsimp only
  cases body site entry.1 with
  | error fault => exact iff_of_false nofun nofun
  | ok body? => exact iff_of_true rfl ⟨body?, rfl⟩

theorem surplus_eq_nil {label : String} {channels : Nat} {bodies : WeightedBodies} :
    surplus label channels bodies = [] ↔ ∀ values ∈ bodies, ∀ length,
      (values.1.bind (·.get? label)).bind (·.listLength?) = some length → length ≤ channels := by
  rw [surplus, List.filterMap_eq_nil_iff]
  refine forall₂_congr fun values _ => ?_
  cases (values.1.bind (·.get? label)).bind (·.listLength?) with
  | none => exact iff_of_true rfl nofun
  | some length => simp

theorem forall_report_variableSteps {proc : Proc P} {bodies : WeightedBodies} {store : Store P}
    {label : String} :
    (∀ failure, .report failure ∉ variableSteps proc bodies store label) ↔
      proc.description.rejects label = false ∧ ∀ var, proc.variableIndex? label = some var →
        surplus label (store.channelCount (proc.terminals var)) bodies = [] := by
  unfold variableSteps
  cases indexed : proc.variableIndex? label with
  | none => simp [Proc.rejects_of_none indexed]
  | some var =>
      rw [Proc.rejects_of_some indexed]
      dsimp only
      cases (((proc.declaration? var).map Declaration.type).getD .double).isSignal with
      | true => simp
      | false => simp [List.eq_nil_iff_forall_not_mem]

theorem forall_report_siteSteps {weights : Weights} {replica : Option Nat} {store : Store P}
    {site : Site P} :
    (∀ failure, .report failure ∉ siteSteps weights replica store site) ↔
      (targets replica site = true → Accepts site weights store) := by
  unfold siteSteps
  cases targets replica site with
  | false => exact iff_of_true (fun failure => List.not_mem_nil) nofun
  | true =>
      have split : (∀ failure, Step.report failure ∉ (unresolved site weights).map .report ++
          (mentionedLabels (bodies site weights)).flatMap
            (variableSteps site.proc (bodies site weights) store)) ↔
          unresolved site weights = [] ∧ ∀ label ∈ mentionedLabels (bodies site weights),
            ∀ failure, .report failure ∉
              variableSteps site.proc (bodies site weights) store label := by
        simp only [List.mem_append, List.mem_map, List.mem_flatMap, not_or, not_exists, not_and,
          Step.report.injEq, List.eq_nil_iff_forall_not_mem]
        constructor
        · intro each
          exact ⟨fun failure member => (each failure).1 failure member rfl,
            fun label mentioned failure => (each failure).2 label mentioned⟩
        · rintro ⟨resolved, settable⟩ failure
          exact ⟨fun other member same => resolved other member,
            fun label mentioned => settable label mentioned failure⟩
      rw [if_pos rfl, split, unresolved_eq_nil]
      simp only [forall_report_variableSteps, surplus_eq_nil]
      constructor
      · rintro ⟨resolves, each⟩ -
        exact ⟨resolves, fun label mentioned => (each label mentioned).1,
          fun label mentioned => (each label mentioned).2⟩
      · intro accepts
        obtain ⟨resolves, settable, short⟩ := accepts trivial
        exact ⟨resolves, fun label mentioned => ⟨settable label mentioned, short label mentioned⟩⟩

/-- Nothing is reported of the presets themselves exactly if every proc that is meant accepts
them. -/
theorem forall_report_steps {weights : Weights} {replica : Option Nat} {sites : List (Site P)}
    {store : Store P} :
    (∀ failure, .report failure ∉ steps weights replica sites store) ↔
      ∀ site ∈ sites, targets replica site = true → Accepts site weights store := by
  simp only [← forall_report_siteSteps, steps, List.mem_flatMap, not_exists, not_and]
  exact ⟨fun each site listed failure => each failure site listed,
    fun each failure site listed => each site listed failure⟩

theorem blend_mem_variableSteps {proc : Proc P} {bodies : WeightedBodies} {store : Store P}
    {label : String} {field : Field} :
    .blend field ∈ variableSteps proc bodies store label ↔
      ∃ var, proc.variableIndex? label = some var ∧ proc.description.rejects label = false ∧
        ∃ ch < store.channelCount (proc.terminals var),
          field = ⟨proc.label, label, ((proc.declaration? var).map (·.type)).getD .double,
            proc.terminals var, bodies, ch⟩ := by
  unfold variableSteps
  cases indexed : proc.variableIndex? label with
  | none => simp
  | some var =>
      rw [Proc.rejects_of_some indexed]
      dsimp only
      cases (((proc.declaration? var).map Declaration.type).getD .double).isSignal with
      | true => simp
      | false => simp [eq_comm]

/-- The fields of an application are the mentioned variables that can be set, in the procs that
are meant, channel by channel. -/
theorem blend_mem_steps {weights : Weights} {replica : Option Nat} {sites : List (Site P)}
    {store : Store P} {field : Field} :
    .blend field ∈ steps weights replica sites store ↔
      ∃ site ∈ sites, targets replica site = true ∧
        ∃ label ∈ mentionedLabels (bodies site weights), ∃ var,
          site.proc.variableIndex? label = some var ∧
            site.proc.description.rejects label = false ∧
              ∃ ch < store.channelCount (site.proc.terminals var),
                field = ⟨site.proc.label, label,
                  ((site.proc.declaration? var).map (·.type)).getD .double,
                  site.proc.terminals var, bodies site weights, ch⟩ := by
  rw [steps, List.mem_flatMap]
  refine exists_congr fun site => and_congr_right fun _ => ?_
  unfold siteSteps
  cases targets replica site with
  | false => simp
  | true => simp [blend_mem_variableSteps]

/-! ## Fields in their turn -/

variable [Processor P]

/-- In every state of a built network, the fields of an application fit. -/
theorem fits_of_mem_steps [TypedProcessor P] [SteadyProcessor P]
    {classes : ClassSet P} (lawful : classes.Lawful) {template : Template} {timing : Timing}
    {devices : List Device} {network : Network P}
    (built : Network.build classes template timing devices = .ok network)
    (operations : List Operation) (weights : Weights) (replica : Option Nat) :
    let reached := network.performAll operations
    ∀ field, .blend field ∈ steps weights replica reached.level.sites reached.store →
      field.Fits reached.store := by
  intro reached field isField
  obtain ⟨site, listed, -, label, -, var, -, -, ch, below, rfl⟩ := blend_mem_steps.mp isField
  rw [network.level_performAll] at listed
  obtain ⟨inside, within, member, -⟩ := Level.exists_within_of_mem_sites listed
  have uniform := Build.uniform_within_of_build built within member
  rw [← network.shape_performAll operations] at uniform
  obtain ⟨⟨first, rest, isFirst⟩, present⟩ := uniform.exists_place? below
  exact ⟨isFirst ▸ List.cons_ne_nil first rest, present,
    Network.exists_meetsType_within lawful built operations within member var ch⟩

/-- Wherever a field is in a run of steps, it does what its own blend asks for there. -/
theorem obeys_of_split {steps earlier later : List Step} {field : Field} {store : Store P}
    (fits : ∀ field, .blend field ∈ steps → field.Fits store)
    (split : steps = earlier ++ .blend field :: later) :
    let now := (runSteps earlier store).1
    field.Obeys now (field.apply now).1 (field.apply now).2 := by
  have isField : .blend field ∈ steps := by
    rw [split]
    exact List.mem_append_right _ List.mem_cons_self
  exact ((fits field isField).written (written_runSteps earlier store)).obeys

/-- A run of steps reports nothing exactly if none of them is a report, and every field that is
mentioned converts in its turn. -/
theorem runSteps_silent {steps : List Step} {store : Store P}
    (fits : ∀ field, .blend field ∈ steps → field.Fits store) :
    (runSteps steps store).2 = [] ↔ (∀ failure, .report failure ∉ steps) ∧
      ∀ earlier field later, steps = earlier ++ .blend field :: later →
        field.mentioned = true → ∃ held, field.Converts (runSteps earlier store).1 held := by
  rw [runSteps_snd_eq_nil]
  constructor
  · intro silent
    refine ⟨fun failure isReport => ?_, fun earlier field later split => ?_⟩
    · obtain ⟨earlier, later, split⟩ := List.append_of_mem isReport
      cases silent earlier _ later split
    · have faultless := silent earlier _ later split
      rw [Step.run, List.map_eq_nil_iff, Option.toList_eq_nil_iff] at faultless
      exact (obeys_of_split fits split).fault_eq_none.mp faultless
  · rintro ⟨noReport, converts⟩ earlier step later split
    cases step with
    | report failure =>
        refine absurd ?_ (noReport failure)
        rw [split]
        exact List.mem_append_right _ List.mem_cons_self
    | blend field =>
        rw [Step.run, List.map_eq_nil_iff, Option.toList_eq_nil_iff]
        exact (obeys_of_split fits split).fault_eq_none.mpr (converts earlier field later split)

end Blend

end SignalNet
