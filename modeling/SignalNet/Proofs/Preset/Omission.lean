import SignalNet.Proofs.Preset.Steps

/-!
Contract: entries that cannot be taken make no difference to the others.

A preset may mention variables that a proc does not have, or that carry audio or notes. They
are reported, and the rest is applied. So presets can do without such entries: a variable that can
be set gets the same contributions from what is left of each body, and variables that cannot be
set are passed over. The order in which the others come is the same, because a variable is taken up
where it is first mentioned, and the first mention of one does not depend on those of others.

Owns: leaving entries out of all presets of a network (`Omission`, `Network.without`), and that
this leaves applications with the same cells and the same other failures
(`applySites_without`).
-/

set_option autoImplicit false

namespace SignalNet

variable {P : Type}

/-! ## Presets without some entries -/

/-- Entries to be left out of presets: of those of a class, by preset and variable, and of the
values that the presets of a network have themselves, by preset, proc and variable. No proc that
they are for can take them. -/
structure Omission (P : Type) where
  ofClass : ClassDescription P → String → String → Bool
  ofNetwork : Level P → String → String → String → Bool
  rejects_of_class {description : ClassDescription P} {preset var : String} :
    ofClass description preset var = true → description.rejects var = true
  rejects_of_network {level : Level P} {preset label var : String} {proc : Proc P} :
    ofNetwork level preset label var = true → proc ∈ level.procs → proc.label = label →
      proc.description.rejects var = true

/-- All entries that cannot be taken. -/
def Omission.all : Omission P where
  ofClass description _ var := description.rejects var
  ofNetwork level _ label var :=
    level.procs.all fun proc => proc.label != label || proc.description.rejects var
  rejects_of_class rejected := rejected
  rejects_of_network {level _ label var proc} rejected member labelled := by
    have here := List.all_eq_true.mp rejected proc member
    simpa [labelled] using here

def Assignments.without (omitted : String → Bool) (values : Assignments) : Assignments :=
  ⟨values.entries.filter fun entry => !omitted entry.1⟩

def PresetEntry.without (omitted : String → Bool) : PresetEntry → PresetEntry
  | .named label => .named label
  | .inline values => .inline (values.without omitted)

def NetworkPreset.without (omitted : String → String → Bool) (preset : NetworkPreset) :
    NetworkPreset :=
  { preset with entries := preset.entries.map fun entry =>
      (entry.1, entry.2.without (omitted entry.1)) }

def ClassDescription.without (omission : Omission P) (description : ClassDescription P) :
    ClassDescription P :=
  { description with presets := description.presets.map fun preset =>
      { preset with body := preset.body.without (omission.ofClass description preset.label) } }

/-- The presets of a network without the entries to be left out. -/
def Level.presetsWithout (omission : Omission P) (level : Level P) : List NetworkPreset :=
  level.presets.map fun preset => preset.without (omission.ofNetwork level preset.label)

def ProcHead.without (omission : Omission P) (head : ProcHead P) : ProcHead P :=
  { head with description := head.description.without omission }

mutual

/-- The same proc, with presets in it and of its class that have fewer entries. -/
def Proc.without (omission : Omission P) : Proc P → Proc P
  | .native head slot => .native (head.without omission) slot
  | .subnet head procs order presets forwards =>
      .subnet (head.without omission) (procsWithout omission procs) order
        (Level.presetsWithout omission ⟨procs, order, presets⟩) forwards

def procsWithout (omission : Omission P) : List (Proc P) → List (Proc P)
  | [] => []
  | proc :: rest => proc.without omission :: procsWithout omission rest

end

def Level.without (omission : Omission P) (level : Level P) : Level P :=
  ⟨procsWithout omission level.procs, level.order, level.presetsWithout omission⟩

def Network.without (omission : Omission P) (network : Network P) : Network P :=
  { network with level := network.level.without omission }

variable (omission : Omission P)

theorem procsWithout_eq_map (procs : List (Proc P)) :
    procsWithout omission procs = procs.map (Proc.without omission) := by
  induction procs with
  | nil => rfl
  | cons proc rest inductionHypothesis => rw [procsWithout, List.map_cons, inductionHypothesis]

theorem Proc.head_without (proc : Proc P) :
    (proc.without omission).head = proc.head.without omission := by
  cases proc <;> rw [Proc.without, Proc.head, Proc.head]

theorem Proc.description_without (proc : Proc P) :
    (proc.without omission).description = proc.description.without omission :=
  congrArg ProcHead.description (proc.head_without omission)

theorem Proc.terminals_without (proc : Proc P) (var : Nat) :
    (proc.without omission).terminals var = proc.terminals var := by
  induction proc generalizing var with
  | native head slot => rw [Proc.without, Proc.terminals, Proc.terminals]
  | subnet head procs order presets forwards inductionHypothesis =>
      rw [Proc.without, Proc.terminals, Proc.terminals]
      refine List.flatMap_congr fun target _ => ?_
      rw [terminalsAt_eq, terminalsAt_eq, procsWithout_eq_map, List.getElem?_map]
      cases found : procs[target.1]? with
      | none => rfl
      | some inner =>
          exact inductionHypothesis inner (List.mem_of_getElem? found) target.2

/-! ## Resolution of presets -/

theorem ClassDescription.preset?_without (description : ClassDescription P) (preset : String) :
    (description.without omission).preset? preset =
      (description.preset? preset).map (·.without (omission.ofClass description preset)) := by
  rw [preset?, preset?, ClassDescription.without, List.find?_map, Option.map_map, Option.map_map]
  show Option.map _ (description.presets.find? (·.label == preset)) = _
  cases found : description.presets.find? (·.label == preset) with
  | none => rfl
  | some entry =>
      obtain rfl : entry.label = preset := by simpa using List.find?_some found
      rfl

theorem NetworkPreset.find?_without (omitted : String → String → Bool) (preset : NetworkPreset)
    (label : String) :
    (preset.without omitted).find? label =
      (preset.find? label).map (·.without (omitted label)) := by
  rw [find?, find?, NetworkPreset.without, List.find?_map, Option.map_map, Option.map_map]
  show Option.map _ (preset.entries.find? (·.1 == label)) = _
  cases found : preset.entries.find? (·.1 == label) with
  | none => rfl
  | some entry =>
      obtain rfl : entry.1 = label := by simpa using List.find?_some found
      rfl

theorem Level.find?_presetsWithout (level : Level P) (preset : String) :
    (level.presetsWithout omission).find? (·.label == preset) =
      (level.presets.find? (·.label == preset)).map (·.without (omission.ofNetwork level preset))
    := by
  rw [presetsWithout, List.find?_map]
  show Option.map _ (level.presets.find? (·.label == preset)) = _
  cases found : level.presets.find? (·.label == preset) with
  | none => rfl
  | some entry =>
      obtain rfl : entry.label = preset := by simpa using List.find?_some found
      rfl

/-- One site is another with presets that have fewer entries, none of which the proc could
take. -/
structure Site.Trims (full less : Site P) : Prop where
  label : less.proc.label = full.proc.label
  replica : less.proc.head.replica = full.proc.head.replica
  vars : less.proc.description.vars = full.proc.description.vars
  terminals : less.proc.terminals = full.proc.terminals
  body : ∀ preset, ∃ omitted : String → Bool,
    (∀ label, omitted label = true → full.proc.description.rejects label = true) ∧
      Blend.body less preset = (Blend.body full preset).map (·.map (·.without omitted))

/-- What is left of a body: entries are left out of the presets of a class, or of the values
that the network has for the proc. -/
theorem Level.body_without (level : Level P) (proc : Proc P) (preset : String) :
    ∃ omitted : String → Bool,
      ((∃ ofClass, omitted = omission.ofClass proc.description ofClass) ∨
          omitted = omission.ofNetwork level preset proc.label) ∧
        Blend.body ⟨proc.without omission, level.presetsWithout omission⟩ preset =
          (Blend.body ⟨proc, level.presets⟩ preset).map (·.map (·.without omitted)) := by
  have sameLabel : (proc.without omission).label = proc.label := by
    rw [Proc.label, proc.head_without omission]
    rfl
  unfold Blend.body
  dsimp only
  rw [proc.description_without omission, sameLabel, level.find?_presetsWithout omission]
  cases found : level.presets.find? (·.label == preset) with
  | none =>
      refine ⟨omission.ofClass proc.description preset, .inl ⟨preset, rfl⟩, ?_⟩
      dsimp only [Option.map_none, Option.bind_none]
      rw [ClassDescription.preset?_without]
      rfl
  | some network =>
      dsimp only [Option.map_some, Option.bind_some]
      rw [NetworkPreset.find?_without]
      cases network.find? proc.label with
      | none =>
          refine ⟨omission.ofClass proc.description preset, .inl ⟨preset, rfl⟩, ?_⟩
          dsimp only [Option.map_none]
          rw [ClassDescription.preset?_without]
          rfl
      | some entry =>
          cases entry with
          | inline values =>
              exact ⟨omission.ofNetwork level preset proc.label, .inr rfl, rfl⟩
          | named label =>
              refine ⟨omission.ofClass proc.description label, .inl ⟨label, rfl⟩, ?_⟩
              dsimp only [Option.map_some, PresetEntry.without]
              rw [ClassDescription.preset?_without]
              cases proc.description.preset? label with
              | none => rfl
              | some values => rfl

theorem Level.trims_of_mem (level : Level P) {proc : Proc P} (member : proc ∈ level.procs) :
    Site.Trims ⟨proc, level.presets⟩
      ⟨proc.without omission, level.presetsWithout omission⟩ := by
  have sameHead := proc.head_without omission
  refine ⟨?_, ?_, ?_, funext (proc.terminals_without omission), fun preset => ?_⟩
  · dsimp only
    rw [Proc.label, sameHead]
    rfl
  · dsimp only
    rw [sameHead]
    rfl
  · dsimp only
    rw [proc.description_without omission]
    rfl
  · obtain ⟨omitted, isOmitted, isBody⟩ := level.body_without omission proc preset
    refine ⟨omitted, fun label left => ?_, isBody⟩
    rcases isOmitted with ⟨ofClass, rfl⟩ | rfl
    · exact omission.rejects_of_class left
    · exact omission.rejects_of_network left member rfl

theorem forall₂_flatMap {α β : Type} {relation : β → β → Prop} {f g : α → List β}
    {items : List α} (each : ∀ item ∈ items, List.Forall₂ relation (f item) (g item)) :
    List.Forall₂ relation (items.flatMap f) (items.flatMap g) := by
  induction items with
  | nil => exact .nil
  | cons item rest inductionHypothesis =>
      rw [List.flatMap_cons, List.flatMap_cons]
      exact List.rel_append (each item List.mem_cons_self)
        (inductionHypothesis fun other member => each other (List.mem_cons_of_mem _ member))

/-- A site of a network, and the same proc where presets have fewer entries. -/
def Level.Pairs (level : Level P) (full less : Site P) : Prop :=
  ∃ around, level.Within around ∧ ∃ proc ∈ around.procs, full = ⟨proc, around.presets⟩ ∧
    less = ⟨proc.without omission, around.presetsWithout omission⟩

theorem Level.Within.pairs_sites {level around : Level P} (within : level.Within around)
    {proc : Proc P} (member : proc ∈ around.procs) :
    List.Forall₂ (level.Pairs omission) (proc.sites around.presets)
      ((proc.without omission).sites (around.presetsWithout omission)) := by
  have here : level.Pairs omission ⟨proc, around.presets⟩
      ⟨proc.without omission, around.presetsWithout omission⟩ :=
    ⟨around, within, proc, member, rfl, rfl⟩
  induction proc generalizing around with
  | native head slot =>
      rw [Proc.without] at here ⊢
      rw [Proc.sites, Proc.sites]
      exact .cons here .nil
  | subnet head procs order presets forwards inductionHypothesis =>
      rw [Proc.without] at here ⊢
      rw [Proc.sites, Proc.sites]
      refine List.rel_append ?_ (.cons here .nil)
      rw [sitesOf_eq_flatMap, sitesOf_eq_flatMap, procsWithout_eq_map, List.flatMap_map]
      refine forall₂_flatMap fun inner isInner => ?_
      have deeper : level.Within ⟨procs, order, presets⟩ :=
        within.trans (.inner member rfl (.self _))
      exact inductionHypothesis inner isInner deeper isInner
        ⟨_, deeper, inner, isInner, rfl, rfl⟩

/-- The sites of a network without some entries are its sites, in the same order. -/
theorem Level.pairs_sites (level : Level P) :
    List.Forall₂ (level.Pairs omission) level.sites (level.without omission).sites := by
  rw [sites, sites, Level.without, sitesOf_eq_flatMap, sitesOf_eq_flatMap, procsWithout_eq_map,
    List.flatMap_map]
  exact forall₂_flatMap fun proc member => (Within.self level).pairs_sites omission member

theorem Level.trims_sites (level : Level P) :
    List.Forall₂ Site.Trims level.sites (level.without omission).sites := by
  refine (level.pairs_sites omission).imp fun full less paired => ?_
  obtain ⟨around, -, proc, member, rfl, rfl⟩ := paired
  exact around.trims_of_mem omission member

theorem anyResolves_without {preset : String} {procs : List (Proc P)}
    (each : ∀ proc ∈ procs, (proc.without omission).resolves preset = proc.resolves preset) :
    anyResolves preset (procsWithout omission procs) = anyResolves preset procs := by
  induction procs with
  | nil => rfl
  | cons proc rest inductionHypothesis =>
      rw [procsWithout, anyResolves, anyResolves, each proc List.mem_cons_self,
        inductionHypothesis fun other member => each other (List.mem_cons_of_mem _ member)]

theorem Level.any_presetsWithout (level : Level P) (preset : String) :
    (level.presetsWithout omission).any (·.label == preset) =
      level.presets.any (·.label == preset) := by
  rw [presetsWithout, List.any_map]
  rfl

theorem Proc.resolves_without (proc : Proc P) (preset : String) :
    (proc.without omission).resolves preset = proc.resolves preset := by
  induction proc with
  | native head slot =>
      rw [Proc.without, Proc.resolves, Proc.resolves, ProcHead.without,
        ClassDescription.preset?_without, Option.isSome_map]
  | subnet head procs order presets forwards inductionHypothesis =>
      rw [Proc.without, Proc.resolves, Proc.resolves, ProcHead.without,
        ClassDescription.preset?_without, Option.isSome_map, Level.any_presetsWithout,
        anyResolves_without omission inductionHypothesis]

theorem Network.hasPreset_without (network : Network P) (preset : String) :
    (network.without omission).hasPreset preset = network.hasPreset preset := by
  show (network.level.without omission).resolves preset = network.level.resolves preset
  rw [Level.resolves, Level.resolves, Level.without, Level.any_presetsWithout,
    anyResolves_without omission fun proc _ => proc.resolves_without omission preset]

/-! ## Bodies without some entries -/

section

variable {omitted rejects : String → Bool} {label : String}

theorem Assignments.get?_without (values : Assignments) (kept : omitted label = false) :
    (values.without omitted).get? label = values.get? label := by
  rw [get?, get?, Assignments.without, List.find?_filter]
  congr 2
  funext entry
  by_cases same : entry.1 = label
  · simp [same, kept]
  · simp [same]

theorem Assignments.labels_without (values : Assignments) :
    (values.without omitted).labels = values.labels.filter fun label => !omitted label := by
  rw [labels, labels, Assignments.without, List.filter_map]
  rfl

namespace Blend

/-- Bodies without some entries for rejected variables. -/
def Trims (rejects : String → Bool) (full less : WeightedBodies) : Prop :=
  List.Forall₂ (fun body other => other.2 = body.2 ∧ ∃ omitted : String → Bool,
    (∀ label, omitted label = true → rejects label = true) ∧
      other.1 = body.1.map (·.without omitted)) full less

variable {full less : WeightedBodies}

/-- A variable that is not rejected has the same literals in what is left. -/
theorem Trims.get? (trims : Trims rejects full less) (accepted : rejects label = false) :
    List.Forall₂ (fun body other => other.2 = body.2 ∧
      other.1.bind (·.get? label) = body.1.bind (·.get? label)) full less := by
  refine trims.imp fun body other ⟨sameWeight, omitted, rejected, isBody⟩ => ⟨sameWeight, ?_⟩
  have kept : omitted label = false := by
    cases isOmitted : omitted label with
    | false => rfl
    | true => exact absurd (rejected label isOmitted) (by rw [accepted]; nofun)
  rw [isBody]
  cases body.1 with
  | none => rfl
  | some values => exact values.get?_without kept

theorem Trims.blend_eq (trims : Trims rejects full less) (accepted : rejects label = false)
    (type : ValueType) (ch : Nat) (live : Value) :
    blend type label ch live less = blend type label ch live full := by
  have same : less.mapM (contribution type label ch live) =
      full.mapM (contribution type label ch live) := by
    have each := trims.get? accepted
    clear trims
    induction each with
    | nil => rfl
    | cons first _ inductionHypothesis =>
        obtain ⟨sameWeight, sameLiteral⟩ := first
        rw [List.mapM_cons, List.mapM_cons, inductionHypothesis, contribution, contribution,
          literal?, literal?, sameLiteral, sameWeight]
  rw [blend, blend, same]

theorem Trims.surplus_eq (trims : Trims rejects full less) (accepted : rejects label = false)
    (channels : Nat) : surplus label channels less = surplus label channels full := by
  have each := trims.get? accepted
  clear trims
  induction each with
  | nil => rfl
  | cons first _ inductionHypothesis =>
      rw [surplus, surplus, List.filterMap_cons, List.filterMap_cons, first.2]
      rw [surplus, surplus] at inductionHypothesis
      rw [inductionHypothesis]

theorem filter_eraseDups (keep : String → Bool) (labels : List String) :
    labels.eraseDups.filter keep = (labels.filter keep).eraseDups := by
  -- the rest is filtered before the recursive call, so the induction is on the length
  induction length : labels.length using Nat.strong_induction_on generalizing labels with
  | h size inductionHypothesis =>
      cases labels with
      | nil => rfl
      | cons first rest =>
          have shorter : (rest.filter (!· == first)).length < size := by
            rw [← length, List.length_cons]
            exact Nat.lt_succ_of_le (List.length_filter_le _ _)
          rw [List.eraseDups_cons]
          cases kept : keep first with
          | true =>
              rw [List.filter_cons_of_pos kept, List.filter_cons_of_pos kept, List.eraseDups_cons,
                inductionHypothesis _ shorter _ rfl, List.filter_filter, List.filter_filter]
              simp only [Bool.and_comm]
          | false =>
              have dropped : ¬ keep first = true := by rw [kept]; nofun
              rw [List.filter_cons_of_neg dropped, List.filter_cons_of_neg dropped,
                inductionHypothesis _ shorter _ rfl, List.filter_filter]
              congr 2
              funext label
              by_cases same : label = first
              · rw [same, kept, Bool.false_and]
              · simp [same]

/-- Variables that are not rejected are mentioned in the same order. -/
theorem Trims.mentionedLabels_eq (trims : Trims rejects full less) :
    (mentionedLabels less).filter (!rejects ·) = (mentionedLabels full).filter (!rejects ·) := by
  rw [mentionedLabels, mentionedLabels, filter_eraseDups, filter_eraseDups]
  congr 1
  induction trims with
  | nil => rfl
  | @cons body other fullRest lessRest first _ inductionHypothesis =>
      obtain ⟨-, omitted, rejected, isBody⟩ := first
      rw [List.filterMap_cons, List.filterMap_cons, isBody]
      cases body.1 with
      | none => exact inductionHypothesis
      | some values =>
          simp only [Option.map_some, List.flatMap_cons, List.filter_append, inductionHypothesis,
            Assignments.labels_without, List.filter_filter]
          congr 2
          funext label
          cases isOmitted : omitted label with
          | false => simp
          | true => simp [rejected label isOmitted]

/-! ## Applications without some entries -/

/-- A failure that says that a proc cannot take a variable. -/
def isRejection (failure : PresetFailure) : Bool :=
  match failure.fault with
  | .unknownVariable => true
  | .signalVariable _ => true
  | _ => false

/-- What is reported besides variables that a proc cannot take. -/
def others (failures : List PresetFailure) : List PresetFailure :=
  failures.filter fun failure => !isRejection failure

theorem others_append (first second : List PresetFailure) :
    others (first ++ second) = others first ++ others second :=
  List.filter_append ..

variable [Processor P]

theorem applyVariable_of_rejected {proc : Proc P}
    (rejected : proc.description.rejects label = true) (bodies : WeightedBodies)
    (store : Store P) :
    ∃ fault, applyVariable proc bodies label store = (store, [fault]) ∧
      isRejection ⟨proc.label, label, fault⟩ = true := by
  unfold applyVariable
  cases indexed : proc.variableIndex? label with
  | none => exact ⟨_, rfl, rfl⟩
  | some var =>
      rw [Proc.rejects_of_some indexed] at rejected
      dsimp only
      rw [if_pos rejected]
      exact ⟨_, rfl, rfl⟩

/-- Variables that a proc cannot take are passed over. -/
theorem applyVariables_filter (proc : Proc P) (bodies : WeightedBodies) (labels : List String)
    (store : Store P) :
    let kept := labels.filter (!proc.description.rejects ·)
    (applyVariables proc bodies kept store).1 = (applyVariables proc bodies labels store).1 ∧
      others (applyVariables proc bodies kept store).2 =
        others (applyVariables proc bodies labels store).2 := by
  induction labels generalizing store with
  | nil => exact ⟨rfl, rfl⟩
  | cons label rest inductionHypothesis =>
      cases rejected : proc.description.rejects label with
      | true =>
          obtain ⟨fault, untouched, isRejected⟩ := applyVariable_of_rejected rejected bodies store
          obtain ⟨sameStore, sameOthers⟩ := inductionHypothesis store
          rw [List.filter_cons_of_neg (by simp [rejected])]
          simp only [applyVariables, untouched, List.map_cons, List.map_nil, others_append]
          refine ⟨sameStore, sameOthers.trans ?_⟩
          rw [others, others, List.filter_cons_of_neg (by simp [isRejected])]
          rfl
      | false =>
          rw [List.filter_cons_of_pos (by simp [rejected])]
          obtain ⟨sameStore, sameOthers⟩ :=
            inductionHypothesis (applyVariable proc bodies label store).1
          simp only [applyVariables, others_append]
          exact ⟨sameStore, congrArg _ sameOthers⟩

theorem applyChannels_congr {type : ValueType} {terminals : List Terminal}
    (same : ∀ ch live, blend type label ch live less = blend type label ch live full)
    (channels : List Nat) (store : Store P) :
    applyChannels type label terminals less channels store =
      applyChannels type label terminals full channels store := by
  induction channels generalizing store with
  | nil => rfl
  | cons ch rest inductionHypothesis =>
      simp only [applyChannels, applyChannel, same, inductionHypothesis]

variable {site trimmed : Site P}

/-- A variable that can be set is blended as before. -/
theorem applyVariable_of_trims (sameSite : site.Trims trimmed)
    (accepted : site.proc.description.rejects label = false)
    (trims : Trims site.proc.description.rejects full less) (store : Store P) :
    applyVariable trimmed.proc less label store = applyVariable site.proc full label store := by
  have sameIndex : trimmed.proc.variableIndex? label = site.proc.variableIndex? label := by
    rw [Proc.variableIndex?, Proc.variableIndex?, ClassDescription.variableIndex?,
      ClassDescription.variableIndex?, sameSite.vars]
  unfold applyVariable
  rw [sameIndex]
  cases site.proc.variableIndex? label with
  | none => rfl
  | some var =>
      have sameDeclaration : trimmed.proc.declaration? var = site.proc.declaration? var := by
        rw [Proc.declaration?, Proc.declaration?, sameSite.vars]
      dsimp only
      rw [sameDeclaration, sameSite.terminals, trims.surplus_eq accepted,
        applyChannels_congr fun ch live => trims.blend_eq accepted _ ch live]

theorem applyVariables_of_trims (sameSite : site.Trims trimmed)
    (trims : Trims site.proc.description.rejects full less) {labels : List String}
    (accepted : ∀ label ∈ labels, site.proc.description.rejects label = false)
    (store : Store P) :
    applyVariables trimmed.proc less labels store =
      applyVariables site.proc full labels store := by
  induction labels generalizing store with
  | nil => rfl
  | cons label rest inductionHypothesis =>
      obtain ⟨first, later⟩ := List.forall_mem_cons.mp accepted
      simp only [applyVariables, applyVariable_of_trims sameSite first trims, sameSite.label,
        inductionHypothesis later]

omit [Processor P] in
theorem trims_bodies (sameSite : site.Trims trimmed) (weights : Weights) :
    Trims site.proc.description.rejects (bodies site weights) (bodies trimmed weights) := by
  unfold Trims bodies
  rw [List.forall₂_map_left_iff, List.forall₂_map_right_iff]
  refine List.forall₂_same.mpr fun entry _ => ⟨rfl, ?_⟩
  obtain ⟨omitted, rejected, isBody⟩ := sameSite.body entry.1
  refine ⟨omitted, rejected, ?_⟩
  dsimp only
  rw [isBody]
  cases body site entry.1 with
  | error fault => rfl
  | ok body? => cases body? <;> rfl

omit [Processor P] in
theorem unresolved_of_trims (sameSite : site.Trims trimmed) (weights : Weights) :
    unresolved trimmed weights = unresolved site weights := by
  unfold unresolved
  refine List.filterMap_congr fun entry _ => ?_
  obtain ⟨omitted, -, isBody⟩ := sameSite.body entry.1
  dsimp only
  rw [isBody, sameSite.label]
  cases body site entry.1 <;> rfl

theorem applySite_of_trims (sameSite : site.Trims trimmed) (weights : Weights)
    (replica : Option Nat) (store : Store P) :
    (applySite weights replica trimmed store).1 = (applySite weights replica site store).1 ∧
      others (applySite weights replica trimmed store).2 =
        others (applySite weights replica site store).2 := by
  have sameTargets : targets replica trimmed = targets replica site := by
    unfold targets
    rw [sameSite.replica]
  have trims := trims_bodies sameSite weights
  have sameRejects : trimmed.proc.description.rejects = site.proc.description.rejects := by
    funext label
    unfold ClassDescription.rejects ClassDescription.variableIndex?
    rw [sameSite.vars]
  unfold applySite
  rw [sameTargets]
  split
  · -- both pass over what is rejected, and what is left are the same variables in the same order
    obtain ⟨leftStore, leftOthers⟩ := applyVariables_filter trimmed.proc (bodies trimmed weights)
      (mentionedLabels (bodies trimmed weights)) store
    obtain ⟨rightStore, rightOthers⟩ := applyVariables_filter site.proc (bodies site weights)
      (mentionedLabels (bodies site weights)) store
    rw [sameRejects, trims.mentionedLabels_eq, applyVariables_of_trims sameSite trims
      fun label member => by simpa using (List.mem_filter.mp member).2] at leftStore leftOthers
    simp only [applyBodies, others_append, unresolved_of_trims sameSite, ← leftStore, ← leftOthers,
      rightStore, rightOthers]
    exact ⟨trivial, trivial⟩
  · exact ⟨rfl, rfl⟩

theorem applySites_of_trims {sites trimmed : List (Site P)}
    (each : List.Forall₂ Site.Trims sites trimmed) (weights : Weights) (replica : Option Nat)
    (store : Store P) :
    (applySites weights replica trimmed store).1 = (applySites weights replica sites store).1 ∧
      others (applySites weights replica trimmed store).2 =
        others (applySites weights replica sites store).2 := by
  induction each generalizing store with
  | nil => exact ⟨rfl, rfl⟩
  | cons sameSite _ inductionHypothesis =>
      obtain ⟨siteStore, siteOthers⟩ := applySite_of_trims sameSite weights replica store
      simp only [applySites, others_append, siteStore, siteOthers]
      obtain ⟨sameStore, sameOthers⟩ := inductionHypothesis (applySite weights replica _ store).1
      exact ⟨sameStore, congrArg _ sameOthers⟩

/-- The failures that an outcome lists. -/
def reported : Except PresetError Unit → List PresetFailure
  | .error (.incomplete _ failures) => failures
  | _ => []

theorem reported_outcome (name : String) (failures : List PresetFailure) :
    reported (outcome name failures) = failures := by
  cases failures <;> rfl

end Blend

end

/-- Leaving out entries that no proc can take changes no cell and no other failure. -/
theorem Network.applyWeights_without [Processor P] (network : Network P) (weights : Weights)
    (replica : Option Nat) (name : String) :
    let full := network.applyWeights weights replica name
    let less := (network.without omission).applyWeights weights replica name
    less.1 = full.1.without omission ∧
      Blend.others (Blend.reported less.2) = Blend.others (Blend.reported full.2) := by
  obtain ⟨sameStore, sameOthers⟩ := Blend.applySites_of_trims
    (network.level.trims_sites omission) weights replica network.store
  unfold applyWeights
  simp only [network.hasPreset_without omission]
  split
  · exact ⟨rfl, rfl⟩
  · dsimp only
    rw [Blend.reported_outcome, Blend.reported_outcome]
    refine ⟨?_, sameOthers⟩
    simp only [Network.without]
    rw [sameStore]

end SignalNet
