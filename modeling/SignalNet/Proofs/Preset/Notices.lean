import SignalNet.Proofs.Network.Notices
import SignalNet.Proofs.Network.Precedence
import SignalNet.Proofs.Network.Twins
import SignalNet.Proofs.Preset.BestEffort

/-!
Contract: processors hear of every store from outside, once, and of nothing else.

A field of a preset that is blended and taken is stored in all native channels behind it, and
each of the processors is told once for it. A field that no body mentions, or that is refused, is
not stored and not told of. Before it runs, a network hears of nothing but the presets that its
procs are built with: arguments are in the banks before there are processors, and the literals
of subnets are written in silence.

Owns: the deposits of a run of preset steps (`Blend.Journal`), the history of the store of a
network under construction by the procs that are built (`Build.History`), and what a built
network hears of (`Network.Notified`).
-/

set_option autoImplicit false

namespace SignalNet

variable {P : Type} [Processor P]

/-! ## Fields of presets -/

namespace Blend

/-- What a field in its turn puts into native channels: nothing if no body mentions it or if it is
refused, and else what a write of its blend puts there. -/
inductive Field.Makes (field : Field) (store : Store P) : List Deposit → Prop where
  | skipped (unmentioned : field.mentioned = false) : Makes field store []
  | refused {fault : ValueError} (failed : (field.apply store).2 = some fault) :
      Makes field store []
  | stored {value : Value} (mentioned : field.mentioned = true)
      (blended : field.blended store = .ok (some value)) (taken : (field.apply store).2 = none) :
      Makes field store (store.depositsOf field.terminals field.channel value)

/-- The deposits of a run of steps: each field makes its own in its turn, and each deposit is told
of once. -/
inductive Journal : List Step → Store P → List Deposit → Store P → Prop where
  | nil (store : Store P) : Journal [] store [] store
  | report {failure : PresetFailure} {rest : List Step} {store after : Store P}
      {deposits : List Deposit} (others : Journal rest store deposits after) :
      Journal (.report failure :: rest) store deposits after
  | blend {field : Field} {rest : List Step} {store middle after : Store P}
      {own deposits : List Deposit} (makes : field.Makes store own)
      (told : Store.Told own store middle) (others : Journal rest middle deposits after) :
      Journal (.blend field :: rest) store (own ++ deposits) after

theorem Journal.told {steps : List Step} {store after : Store P} {deposits : List Deposit}
    (journal : Journal steps store deposits after) : Store.Told deposits store after := by
  induction journal with
  | nil store => exact .nil store
  | report _ inductionHypothesis => exact inductionHypothesis
  | blend _ told _ inductionHypothesis => exact told.append inductionHypothesis

/-- A field that leaves the store alone when it is refused makes its deposits and tells of them. -/
theorem Field.exists_makes {field : Field} {store : Store P}
    (kept : ∀ fault, (field.apply store).2 = some fault → (field.apply store).1 = store) :
    ∃ own, field.Makes store own ∧ Store.Told own store (field.apply store).1 := by
  cases failed : (field.apply store).2 with
  | some fault =>
      rw [kept fault failed]
      exact ⟨[], .refused failed, .nil store⟩
  | none =>
      cases mentioned : field.mentioned with
      | false =>
          rw [apply_eq, blended_of_not_mentioned mentioned]
          exact ⟨[], .skipped mentioned, .nil store⟩
      | true =>
          have applied := field.apply_eq store
          cases blended : field.blended store with
          | error fault =>
              rw [applied, blended] at failed
              cases failed
          | ok value? =>
              obtain ⟨value, rfl⟩ :=
                Option.isSome_iff_exists.mp (isSome_of_blended blended mentioned)
              refine ⟨_, .stored mentioned blended failed, ?_⟩
              rw [blended] at applied
              dsimp only at applied
              split at applied
              · rename_i written wrote result
                rw [applied]
                exact Store.told_write result
              · rw [applied] at failed
                cases failed

omit [Processor P] in
theorem Field.Obeys.unchanged {field : Field} {before after : Store P} {fault : ValueError}
    (refused : field.Obeys before after (some fault)) : after = before := by
  cases refused
  rfl

/-- A run whose refused fields leave the store alone keeps a journal. -/
theorem exists_journal {steps : List Step} {store : Store P}
    (kept : ∀ earlier field later, steps = earlier ++ .blend field :: later →
      let now := (runSteps earlier store).1
      ∀ fault, (field.apply now).2 = some fault → (field.apply now).1 = now) :
    ∃ deposits, Journal steps store deposits (runSteps steps store).1 := by
  induction steps generalizing store with
  | nil => exact ⟨[], .nil store⟩
  | cons step rest inductionHypothesis =>
      have onward := fun earlier field later split =>
        kept (step :: earlier) field later (congrArg (step :: ·) split)
      cases step with
      | report failure =>
          obtain ⟨deposits, journal⟩ := inductionHypothesis onward
          exact ⟨deposits, .report journal⟩
      | blend field =>
          obtain ⟨own, makes, told⟩ := Field.exists_makes (kept [] field rest rfl)
          obtain ⟨deposits, journal⟩ := inductionHypothesis onward
          exact ⟨own ++ deposits, .blend makes told journal⟩

end Blend

/-! ## Networks under construction -/

/-- What is built from a template: its own procs and those of the subnets inside, each of the class
that it asks for. -/
def Template.Makes (classes : ClassSet P) (template : Template) (spec : ProcSpec)
    (description : ClassDescription P) : Prop :=
  ∃ own, template.Within classes own ∧ spec ∈ own.procs ∧
    classes.get? spec.className = some description

omit [Processor P] in
theorem Template.Makes.of_inner {classes : ClassSet P} {template own : Template}
    {spec inner : ProcSpec} {description around : ClassDescription P}
    (listed : spec ∈ template.procs) (known : classes.get? spec.className = some around)
    (isSubnet : around.kind = .subnet own)
    (makes : own.Makes classes inner description) : template.Makes classes inner description := by
  obtain ⟨last, within, isInner, isKnown⟩ := makes
  exact ⟨last, .inner listed known isSubnet within, isInner, isKnown⟩

namespace Build

/-- How building a template fills the store. For every native proc, a cell is added as its class
creates it, from the declared bank after the arguments have been applied to that. For every
subnet, its literals are written in silence. A proc that asks for a preset of its class gets it,
with a notice for every store. -/
inductive History (environment : Environment P) (template : Template) (start : Store P) :
    Store P → Prop where
  | start : History environment template start start
  | created {store : Store P} {spec : ProcSpec} {description : ClassDescription P}
      {native : NativeClass P} {device : Option Nat} {declared given : Bank} {cell : Cell P}
      (before : History environment template start store)
      (makes : template.Makes environment.classes spec description)
      (isNative : description.kind = .plain native)
      (found : findDevice environment spec = .ok device)
      (isDeclared : Bank.ofDeclarations description.vars = .ok declared)
      (filled : applyArguments spec spec.arguments.entries declared = .ok given)
      (creates : native.create
        ⟨spec.label, environment.timing, device.bind (environment.devices[·]?)⟩ given =
          .ok (cell.processor, cell.bank)) :
      History environment template start (store ++ [cell])
  | written {store after : Store P} {spec : ProcSpec} {proc : Proc P}
      (before : History environment template start store)
      (makes : template.Makes environment.classes spec proc.description)
      (isLabel : proc.label = spec.label) (literals : writeSubnet spec proc store = .ok after)
      (silent : after.processors = store.processors) : History environment template start after
  | preset {store after : Store P} {spec : ProcSpec} {proc : Proc P} {label : String}
      {body : Assignments} {deposits : List Deposit}
      (before : History environment template start store)
      (makes : template.Makes environment.classes spec proc.description)
      (isLabel : proc.label = spec.label) (asked : spec.preset = some label)
      (known : proc.description.preset? label = some body)
      (journal : Blend.Journal ((Blend.mentionedLabels [(some body, 1)]).flatMap
        (Blend.variableSteps proc [(some body, 1)] store)) store deposits after) :
      History environment template start after

variable {environment : Environment P} {template : Template} {start middle store after : Store P}

theorem History.trans (first : History environment template start middle)
    (second : History environment template middle after) :
    History environment template start after := by
  induction second with
  | start => exact first
  | created _ makes isNative found isDeclared filled creates inductionHypothesis =>
      exact .created inductionHypothesis makes isNative found isDeclared filled creates
  | written _ makes isLabel literals silent inductionHypothesis =>
      exact .written inductionHypothesis makes isLabel literals silent
  | preset _ makes isLabel asked known journal inductionHypothesis =>
      exact .preset inductionHypothesis makes isLabel asked known journal

/-- What is made for a part of a template is made for the template. -/
theorem History.mono {part : Template} (history : History environment part start after)
    (includes : ∀ spec description, part.Makes environment.classes spec description →
      template.Makes environment.classes spec description) :
    History environment template start after := by
  induction history with
  | start => exact .start
  | created _ makes isNative found isDeclared filled creates inductionHypothesis =>
      exact .created inductionHypothesis (includes _ _ makes) isNative found isDeclared filled
        creates
  | written _ makes isLabel literals silent inductionHypothesis =>
      exact .written inductionHypothesis (includes _ _ makes) isLabel literals silent
  | preset _ makes isLabel asked known journal inductionHypothesis =>
      exact .preset inductionHypothesis (includes _ _ makes) isLabel asked known journal

/-- A class preset that is applied without a failure keeps a journal. -/
theorem history_of_applyClassPreset {spec : ProcSpec} {proc : Proc P} {label : String}
    (makes : template.Makes environment.classes spec proc.description)
    (isLabel : proc.label = spec.label) (asked : spec.preset = some label)
    (applied : applyClassPreset proc label store = (after, .ok ())) :
    History environment template store after := by
  unfold applyClassPreset at applied
  cases known : proc.description.preset? label with
  | none =>
      rw [known] at applied
      cases applied
  | some body =>
      rw [known] at applied
      dsimp only at applied
      rw [Blend.applyBodies, Blend.applyVariables_eq_runSteps rfl] at applied
      obtain ⟨rfl, succeeded⟩ := Prod.mk.inj applied
      have silent := Blend.runSteps_snd_eq_nil.mp (Blend.outcome_eq_ok.mp succeeded)
      -- no field is refused, so none of them could leave anything behind
      obtain ⟨deposits, journal⟩ : ∃ deposits, Blend.Journal _ store deposits _ :=
        Blend.exists_journal fun earlier field later split fault failed => by
          have faultless := silent earlier _ later split
          rw [Blend.Step.run, failed] at faultless
          cases faultless
      exact .preset .start makes isLabel asked known journal

theorem history_of_applyConstructionPresets {created : List (Proc P × ProcSpec)}
    (each : ∀ item ∈ created, template.Makes environment.classes item.2 item.1.description ∧
      item.1.label = item.2.label)
    (applied : applyConstructionPresets created store = .ok after) :
    History environment template store after := by
  fun_induction applyConstructionPresets created store with
  | case1 store =>
      cases applied
      exact .start
  | case2 proc spec rest store unset inductionHypothesis =>
      exact inductionHypothesis (List.forall_mem_cons.mp each).2 applied
  | case3 => cases applied
  | case4 proc spec rest store label asked written result inductionHypothesis =>
      obtain ⟨⟨makes, isLabel⟩, others⟩ := List.forall_mem_cons.mp each
      exact (history_of_applyClassPreset makes isLabel asked result).trans
        (inductionHypothesis others applied)

/-- A builder of levels whose stores have a history. -/
def KeepsHistory (environment : Environment P) (inner : LevelBuilder P) : Prop :=
  ∀ template replica exposed store level after,
    inner template replica exposed store = .ok (level, after) →
      History environment template store after

variable {inner : LevelBuilder P}

theorem history_of_createProc (keeps : KeepsHistory environment inner) {spec : ProcSpec}
    {description : ClassDescription P} {replica : Option Nat} {proc : Proc P}
    (listed : spec ∈ template.procs)
    (known : environment.classes.get? spec.className = some description)
    (made : createProc environment inner spec description replica store = .ok (proc, after)) :
    History environment template store after := by
  have makes : template.Makes environment.classes spec description :=
    ⟨template, .self template, listed, known⟩
  obtain ⟨device, found, ⟨native, cell, isNative, cellMade, -, rfl⟩ |
    ⟨own, level, middle, targets, isSubnet, levelBuilt, -, rfl, literals⟩⟩ := createProc_cases made
  · obtain ⟨declared, given, isDeclared, filled, creates⟩ := createCell_stages cellMade
    exact .created .start makes isNative found isDeclared filled creates
  · have inside := (keeps _ _ _ _ _ _ levelBuilt).mono fun _ _ =>
      Template.Makes.of_inner listed known isSubnet
    exact .written inside makes rfl literals (processors_writeSubnet literals)

theorem history_of_created (keeps : KeepsHistory environment inner) {around : Option Nat}
    {created : List (Proc P × ProcSpec)}
    (made : Created environment inner template.procs around store created after) :
    History environment template store after := by
  induction made with
  | nil store => exact .start
  | cons listed known _ _ made _ inductionHypothesis =>
      exact (history_of_createProc keeps listed known made).trans inductionHypothesis

theorem keepsHistory_buildNested (environment : Environment P) (depth : Nat) :
    KeepsHistory environment (buildNested environment depth) := by
  induction depth with
  | zero =>
      intro template replica exposed store level after built
      cases built
  | succ depth inductionHypothesis =>
      intro template replica exposed store level after built
      obtain ⟨created, middle, assembled⟩ := assembled_of_buildLevel built
      refine (history_of_created inductionHypothesis assembled.made).trans
        (history_of_applyConstructionPresets ?_ assembled.preset)
      rintro ⟨proc, spec⟩ member
      obtain ⟨made, inputs, wasCreated, rfl⟩ := exists_created_of_mem_zip assembled.bound member
      obtain ⟨description, _, _, _, listed, known, creation⟩ := assembled.made.of_mem wasCreated
      have origin := origin_of_createProc creation
      rw [Proc.label_withInputs, Proc.description_withInputs]
      have ofClass : made.description = description := congrArg (·.2.2) origin
      exact ⟨⟨template, .self template, listed, ofClass ▸ known⟩, congrArg (·.1) origin⟩

end Build

/-! ## Built networks -/

namespace Network

/-- What the processors of a network hear of. -/
structure Notified (reached : Network P) : Prop where
  /-- A write that succeeds is heard once by every native processor behind its address. -/
  written : ∀ label var channel value after,
    reached.set label var channel value = (after, .ok ()) →
      ∃ id held, reached.varId label var channel = .ok id ∧ reached.Heard id held after
  writtenById : ∀ id value after, reached.setById id value = (after, .ok ()) →
    ∃ held, reached.Heard id held after
  /-- A write that fails is not heard of, as it leaves no trace at all. -/
  failed : ∀ label var channel value after fault,
    reached.set label var channel value = (after, .error fault) → after = reached
  failedById : ∀ id value after fault, reached.setById id value = (after, .error fault) →
    after = reached
  /-- Whatever applies presets is refused as a whole and leaves no trace, or keeps a journal of
  what it stores, each time with a notice. -/
  presets : ∀ operation outcome, reached.answer operation = .preset outcome →
    Blend.isRefusal outcome = true ∧ reached.perform operation = reached ∨
      ∃ weights replica name deposits,
        reached.applyWeights weights replica name = (reached.perform operation, outcome) ∧
        Blend.Journal (reached.presetSteps weights replica) reached.store deposits
          (reached.perform operation).store ∧
        Store.Told deposits reached.store (reached.perform operation).store
  /-- Connections are copied in silence, in whatever state a cycle is. -/
  copies : ∀ (signals : Signals P) proc var source destination,
    (signals.perform (.copy proc var source destination)).1.store.processors =
      signals.store.processors

/-- Where the places of every field are alike, weighted presets are refused as a whole, or applied
with a journal. -/
theorem journal_of_applyWeights {network after : Network P} {weights : Weights}
    {replica : Option Nat} {name : String} {outcome : Except PresetError Unit}
    (fits : ∀ field, .blend field ∈ network.presetSteps weights replica → field.Fits network.store)
    (applied : network.applyWeights weights replica name = (after, outcome)) :
    Blend.isRefusal outcome = true ∧ after = network ∨
      ∃ deposits, Blend.Journal (network.presetSteps weights replica) network.store deposits
        after.store := by
  rcases network.applyWeights_cases weights replica name with ⟨refused, same⟩ | ⟨-, isRun⟩
  · rw [applied] at refused same
    exact .inl ⟨refused, same⟩
  · -- a field that is refused in its turn has stored nothing, as its places are alike
    have kept : ∀ earlier field later,
        network.presetSteps weights replica = earlier ++ .blend field :: later →
          let now := (Blend.runSteps earlier network.store).1
          ∀ fault, (field.apply now).2 = some fault → (field.apply now).1 = now := by
      intro earlier field later split now fault failed
      have obeys : field.Obeys now _ _ := Blend.obeys_of_split fits split
      rw [failed] at obeys
      exact obeys.unchanged
    obtain ⟨deposits, journal⟩ := Blend.exists_journal kept
    obtain ⟨rfl, -⟩ := Prod.mk.inj (applied.symm.trans isRun)
    exact .inr ⟨deposits, journal⟩

variable [TypedProcessor P] [SteadyProcessor P] {classes : ClassSet P} {template : Template}
  {timing : Timing} {devices : List Device} {network : Network P}

/-- In every state of a built network, writes and presets are heard of once for every store that
they make, by the processor of the cell that it is made in, after it was made. Failed writes,
refused fields, connections, and the arguments and literals that the network was built with are
not heard of. -/
theorem notified_of_build (lawful : classes.Lawful)
    (built : Network.build classes template timing devices = .ok network)
    (operations : List Operation) :
    (network.performAll operations).Notified ∧
      Build.History ⟨classes, timing, devices⟩ template [] network.store := by
  have byId : ∀ id value after, (network.performAll operations).setById id value = (after, .ok ()) →
      ∃ held, (network.performAll operations).Heard id held after :=
    fun id value after => heard_of_setById lawful built operations
  have refusedById : ∀ id value after fault,
      (network.performAll operations).setById id value = (after, .error fault) →
        after = network.performAll operations := by
    intro id value after fault refused
    have unchanged := setById_of_refused lawful built operations (congrArg Prod.snd refused)
    rwa [refused] at unchanged
  refine ⟨⟨fun label var channel value after succeeded => ?_, byId,
    fun label var channel value after fault refused => ?_, refusedById,
    fun operation outcome answered => ?_, Signals.processors_copy⟩,
    Build.keepsHistory_buildNested _ _ _ _ _ _ _ _ (Build.buildNested_of_build built).1⟩
  · obtain ⟨id, resolved, taken⟩ := resolved_of_set succeeded
    obtain ⟨held, heard⟩ := byId id value after taken
    exact ⟨id, held, resolved, heard⟩
  · cases resolved : (network.performAll operations).varId label var channel with
    | error missing =>
        rw [set, resolved] at refused
        exact (congrArg Prod.fst refused).symm
    | ok id =>
        rw [set_of_resolved resolved] at refused
        exact refusedById id value after fault refused
  · rcases perform_preset_cases answered with refused | ⟨weights, replica, name, applied⟩
    · exact .inl refused
    · have fits := Blend.fits_of_mem_steps lawful built operations weights replica
      rcases journal_of_applyWeights fits applied with undone | ⟨deposits, journal⟩
      · exact .inl undone
      · exact .inr ⟨weights, replica, name, deposits, applied, journal, journal.told⟩

end Network

/-! ## Listeners -/

/-- A processor that only notes what it is told: of which variable, and what its first channel
holds by then. -/
structure Listener where
  heard : List (Nat × Option Value)

namespace Listener

instance : Processor Listener where
  step processor bank context _ := ⟨processor, bank, none, context, .ok .proceed⟩
  notify processor var bank := ⟨processor.heard ++ [(var, bank.get? var 0)]⟩

instance : TypedProcessor Listener where
  typed_step _ _ _ _ _ typed := typed

instance : SteadyProcessor Listener where
  shape_step _ _ _ _ := rfl

def native : NativeClass Listener := ⟨none, fun _ bank => .ok (⟨[]⟩, bank)⟩

/-- Two ears in a choir, with a preset for the choir. -/
def classes : ClassSet Listener :=
  let exposed : VarRef → List Declaration := fun target =>
    [⟨"level", "", some .double, .empty, some (.float 0), true, some target⟩]
  ⟨[⟨"ear", [⟨"level", "", some .double, .empty, some (.float 0), false, none⟩], [],
      .plain native, none⟩,
    ⟨"voice", exposed ⟨"core", "level"⟩, [],
      .subnet ⟨[⟨"core", "ear", .empty, [], none, none, none⟩], []⟩, none⟩,
    ⟨"choir", exposed ⟨"voice", "level"⟩, [⟨"loud", .ofList [("level", .float 1)]⟩],
      .subnet ⟨[⟨"voice", "voice", .empty, [], none, some 2, none⟩], []⟩, none⟩]⟩

def template : Template :=
  ⟨[⟨"choir", "choir", .ofList [("level", .float 0.5)], [], some "loud", none, none⟩], []⟩

theorem lawful : classes.Lawful := by
  intro label description isNative known kind
  have listed := List.mem_of_find?_eq_some known
  simp only [classes, List.mem_cons, List.not_mem_nil, or_false] at listed
  rcases listed with rfl | rfl | rfl <;> cases kind
  intro context bank processor stored types created typed
  cases created
  exact typed

/-- Two ears behind one address, below two subnets. -/
theorem notified :
    ∃ network : Network Listener, Network.build classes template .standard [] = .ok network ∧
      (network.performAll [.cycle]).Notified ∧
        Build.History ⟨classes, .standard, []⟩ template [] network.store := by
  have built : Network.build classes template .standard [] = .ok _ := rfl
  exact ⟨_, built, Network.notified_of_build lawful built [.cycle]⟩

/-- Each ear hears once of the preset that the choir is built with and once of a write, and of
nothing else. -/
example :
    (Network.build classes template .standard []).map (fun network =>
      (network.performAll [.cycle, .set "choir" "level" 0 (.double 2), .cycle]).store.processors) =
        .ok [⟨[(0, some (.double 1)), (0, some (.double 2))]⟩,
          ⟨[(0, some (.double 1)), (0, some (.double 2))]⟩] := rfl

end Listener

end SignalNet
