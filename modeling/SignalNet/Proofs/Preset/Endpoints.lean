import SignalNet.Proofs.Network.Literals
import SignalNet.Proofs.Preset.Alignment

/-!
Contract: a blend of two presets at its endpoints.

Where one preset has all of the weight, the application of both leaves what the application of
the one leaves, in every place that the idle preset does not disturb for good: with a contribution
that is not harmless, with a variable of its own that does not give the place its live value back,
or with another order of the variables. Each of these can make a difference. A literal that does
not convert is not passed over: it is reported, and the field is left as it is.

Owns: what it takes that a place is not disturbed (`Network.Undisturbed`), and the law of
endpoints (`dual_endpoints`).
-/

set_option autoImplicit false

namespace SignalNet

variable {P : Type}

namespace Blend

section

variable {endpoint : Endpoint} {terminal : Terminal} {ch : Nat}

/-! ## Steps of the two applications -/

theorem misses_variableSteps {proc : Proc P} {bodies : WeightedBodies} {store : Store P}
    {label : String}
    (unreached : proc.Named [label] terminal → ∀ body ∈ bodies, literal? body.1 label ch = none) :
    ∀ step ∈ variableSteps proc bodies store label, ¬ step.Touches terminal ch := by
  intro step isStep touches
  cases step with
  | report failure => exact touches
  | blend field =>
      obtain ⟨var, indexed, -, ch, -, rfl⟩ := blend_mem_variableSteps.mp isStep
      obtain ⟨leads, rfl, mentioned⟩ := touches
      obtain ⟨body, isBody, given⟩ := List.any_eq_true.mp mentioned
      have none := unreached ⟨label, List.mem_singleton_self label, var, indexed, leads⟩ body isBody
      rw [none] at given
      cases given

/-- The steps for a variable that the preset with all of the weight mentions are aligned. -/
theorem aligned_variableSteps (proc : Proc P) (store : Store P) {label : String}
    {full : Option Assignments} (idle : Option Assignments)
    (given : (literal? full label ch).isSome = true) :
    Aligned endpoint terminal ch
      (variableSteps proc (endpoint.pair (full, 1) (idle, 0)) store label)
      (variableSteps proc [(full, 1)] store label) := by
  unfold variableSteps
  cases proc.variableIndex? label with
  | none =>
      dsimp only
      exact .of_misses (List.forall_mem_singleton.mpr id) (List.forall_mem_singleton.mpr id)
  | some var =>
      dsimp only
      split
      · exact .of_misses (List.forall_mem_singleton.mpr id) (List.forall_mem_singleton.mpr id)
      · refine .append (.of_misses (fun step isReport => ?_) fun step isReport => ?_) ?_
        · obtain ⟨fault, -, rfl⟩ := List.mem_map.mp isReport
          exact id
        · obtain ⟨fault, -, rfl⟩ := List.mem_map.mp isReport
          exact id
        · induction List.range (store.channelCount (proc.terminals var)) with
          | nil => exact .done
          | cons channel rest inductionHypothesis =>
              rw [List.map_cons, List.map_cons]
              by_cases same : channel = ch
              · subst same
                exact .paired rfl given inductionHypothesis
              · exact .left (fun touches => same touches.2.1)
                  (.right (fun touches => same touches.2.1) inductionHypothesis)

/-- The steps for a variable that the preset with all of the weight does not mention are of the idle
preset, if they touch the place at all. -/
theorem aligned_idle_variableSteps (proc : Proc P) (store : Store P) {label : String}
    {full : Option Assignments} (idle : Option Assignments)
    (unmentioned : proc.Named [label] terminal → literal? full label ch = none) :
    Aligned endpoint terminal ch
      (variableSteps proc (endpoint.pair (full, 1) (idle, 0)) store label) [] := by
  unfold variableSteps
  cases indexed : proc.variableIndex? label with
  | none => exact .of_left (List.forall_mem_singleton.mpr id)
  | some var =>
      dsimp only
      split
      · exact .of_left (List.forall_mem_singleton.mpr id)
      · rw [← List.append_nil ([] : List Step)]
        refine .append (.of_left fun step isReport => ?_) ?_
        · obtain ⟨fault, -, rfl⟩ := List.mem_map.mp isReport
          exact id
        · induction List.range (store.channelCount (proc.terminals var)) with
          | nil => exact .done
          | cons channel rest inductionHypothesis =>
              rw [List.map_cons]
              by_cases leads : terminal ∈ proc.terminals var ∧ channel = ch
              · obtain ⟨leads, rfl⟩ := leads
                have named : proc.Named [label] terminal :=
                  ⟨label, List.mem_singleton_self label, var, indexed, leads⟩
                exact .idle rfl (unmentioned named) inductionHypothesis
              · exact .left (fun touches => leads ⟨touches.1, touches.2.1⟩) inductionHypothesis

/-- A preset has a literal for a channel of a variable of a proc that leads to a terminal. -/
def leads (site : Site P) (preset : String) (terminal : Terminal) (ch : Nat)
    (label : String) : Bool :=
  (given? site preset label ch).isSome && match site.proc.variableIndex? label with
    | none => false
    | some var => decide (terminal ∈ site.proc.terminals var)

theorem leads_eq_true {site : Site P} {preset label : String} :
    leads site preset terminal ch label = true ↔
      (given? site preset label ch).isSome = true ∧ site.proc.Named [label] terminal := by
  unfold leads
  rw [Bool.and_eq_true, and_congr_right_iff]
  intro _
  constructor
  · intro isMember
    cases indexed : site.proc.variableIndex? label with
    | none => simp [indexed] at isMember
    | some var =>
        rw [indexed] at isMember
        exact ⟨label, List.mem_singleton_self label, var, indexed, of_decide_eq_true isMember⟩
  · rintro ⟨other, same, var, indexed, isMember⟩
    cases List.mem_singleton.mp same
    simpa [indexed] using isMember

/-! ## The order of the variables -/

/-- The variables that a body mentions. -/
def namesOf (body : Option Assignments) : List String := (body.map (·.labels)).getD []

theorem mentionedLabels_eq (bodies : WeightedBodies) :
    mentionedLabels bodies = (bodies.flatMap fun body => namesOf body.1).eraseDups := by
  rw [mentionedLabels]
  congr 1
  induction bodies with
  | nil => rfl
  | cons body rest inductionHypothesis =>
      rw [List.flatMap_cons, ← inductionHypothesis, List.filterMap_cons]
      cases body.1 <;> rfl

theorem mem_namesOf {body : Option Assignments} {label : String}
    (given : (literal? body label ch).isSome = true) : label ∈ namesOf body := by
  obtain ⟨literal, isLiteral⟩ := Option.isSome_iff_exists.mp given
  obtain ⟨written, isWritten, -⟩ := Option.bind_eq_some_iff.mp isLiteral
  have mentioned := mem_mentionedLabels (List.mem_singleton_self (body, (1 : Float))) isWritten
  rwa [mentionedLabels_eq, List.flatMap_cons, List.flatMap_nil, List.append_nil,
    List.mem_eraseDups] at mentioned

theorem eraseDups_append_of_subset {labels further : List String} (known : further ⊆ labels) :
    (labels ++ further).eraseDups = labels.eraseDups := by
  have nothing : further.removeAll labels = [] := by
    rw [List.removeAll, List.filter_eq_nil_iff]
    intro label member
    simpa using known member
  rw [List.eraseDups_append, nothing, List.eraseDups_nil, List.append_nil]

/-- The variables of a preset that lead to a place, in the order in which an application with some
weights gets to them. -/
def orderOf (site : Site P) (weights : Weights) (preset : String) (terminal : Terminal) (ch : Nat) :
    List String :=
  (mentionedLabels (bodies site weights)).filter (leads site preset terminal ch)

/-- A preset behind another one does not change the order of the variables of that. -/
theorem orderOf_first (site : Site P) (full idle : String) :
    orderOf site (Endpoint.first.weights full idle) full terminal ch =
      orderOf site [(full, 1)] full terminal ch := by
  let fullBody := (body site full).toOption.join
  let matter := (namesOf fullBody).filter (leads site full terminal ch)
  let further := (namesOf (body site idle).toOption.join).filter (leads site full terminal ch)
  have known : further ⊆ matter := by
    intro label member
    have isMatter := (List.mem_filter.mp member).2
    exact List.mem_filter.mpr ⟨mem_namesOf (leads_eq_true.mp isMatter).1, isMatter⟩
  rw [orderOf, orderOf, mentionedLabels_eq, mentionedLabels_eq, filter_eraseDups, filter_eraseDups]
  simp only [Endpoint.weights, Endpoint.pair, bodies, List.map_cons, List.map_nil,
    List.flatMap_cons, List.flatMap_nil, List.append_nil, List.filter_append]
  exact eraseDups_append_of_subset known

/-- The steps for one proc are aligned, if the variables of the preset with all of the weight come
in the same order. -/
theorem aligned_siteSteps (store : Store P) (site : Site P) {full idle : String}
    (ordered : orderOf site (endpoint.weights full idle) full terminal ch =
      orderOf site [(full, 1)] full terminal ch) :
    Aligned endpoint terminal ch (siteSteps (endpoint.weights full idle) none store site)
      (siteSteps [(full, 1)] none store site) := by
  let idleBody := (body site idle).toOption.join
  have both : bodies site (endpoint.weights full idle) =
      endpoint.pair ((body site full).toOption.join, 1) (idleBody, 0) :=
    Endpoint.map_pair _ endpoint _ _
  have alone : bodies site [(full, 1)] = [((body site full).toOption.join, 1)] := rfl
  have unmentioned {label : String} (missed : leads site full terminal ch label = false)
      (named : site.proc.Named [label] terminal) : given? site full label ch = none := by
    rw [← Option.not_isSome_iff_eq_none]
    intro given
    rw [leads_eq_true.mpr ⟨given, named⟩] at missed
    cases missed
  have meant : targets none site = true := rfl
  rw [orderOf, orderOf, both, alone] at ordered
  rw [siteSteps, siteSteps, if_pos meant, if_pos meant, both, alone]
  refine .append (.of_misses (fun step isReport => ?_) fun step isReport => ?_)
    (.flatMap_of_filter (fun label matters => ?_) (fun label missed => ?_)
      (fun label missed => ?_) ordered)
  · obtain ⟨failure, -, rfl⟩ := List.mem_map.mp isReport
    exact id
  · obtain ⟨failure, -, rfl⟩ := List.mem_map.mp isReport
    exact id
  · exact aligned_variableSteps site.proc store idleBody (leads_eq_true.mp matters).1
  · exact aligned_idle_variableSteps site.proc store idleBody (unmentioned missed)
  · refine misses_variableSteps fun named values isBody => ?_
    cases List.mem_singleton.mp isBody
    exact unmentioned missed named

end

/-! ## Literals that do not convert -/

/-- A body with a literal that does not convert leaves a field without a blend. -/
theorem Field.exists_fault {field : Field} {body : Option Assignments × Float}
    (isBody : body ∈ field.bodies) {literal : Literal}
    (given : literal? body.1 field.var field.channel = some literal) {fault : ValueError}
    (refused : literal.toValue field.type = .error fault) (store : Store P) :
    ∃ fault, field.blended store = .error fault := by
  cases blended : field.blended store with
  | error fault => exact ⟨fault, rfl⟩
  | ok value? =>
      obtain ⟨parts, collected, -⟩ := bind_eq_ok.mp blended
      obtain ⟨position, found⟩ := List.mem_iff_getElem?.mp isBody
      obtain ⟨part, -, made⟩ := exists_getElem?_of_forall₂ (mapM_eq_ok.mp collected) found
      rw [contribution, given] at made
      dsimp only at made
      rw [refused] at made
      cases made

theorem mem_runSteps_snd [Processor P] {steps earlier later : List Step} {step : Step}
    (split : steps = earlier ++ step :: later) {store : Store P} {failure : PresetFailure}
    (fails : failure ∈ (step.run (runSteps earlier store).1).2) :
    failure ∈ (runSteps steps store).2 := by
  rw [split, runSteps_append, runSteps]
  exact List.mem_append_right _ (List.mem_append_left _ fails)

end Blend

namespace Network

/-- In a blend of two presets with all of the weight on one of them, the idle one does not
disturb a place. -/
structure Undisturbed [Processor P] (network : Network P) (endpoint : Blend.Endpoint)
    (full idle : String) (terminal : Terminal) (ch : Nat) : Prop where
  /-- Unless the place is overwritten behind it, a field that leads there is calm when it is
  blended. The idle preset contributes a value of the type, be it its literal or the live value, and
  a finite one to a sum; and where only it mentions the field, this has the type of the place, and
  its live value is the one there, which a blend gives back. -/
  settled : Blend.Settled terminal ch (network.presetSteps (endpoint.weights full idle) none)
    network.store
  /-- At the second endpoint, where the variables of the idle preset come first, they leave those
  of the other one that lead to the place in their order. -/
  ordered : endpoint = .second → ∀ site ∈ network.level.sites,
    Blend.orderOf site (endpoint.weights full idle) full terminal ch =
      Blend.orderOf site [(full, 1)] full terminal ch

variable [Processor P]

theorem applyWeights_of_known {network : Network P} {weights : Weights}
    (known : ∀ entry ∈ weights, network.hasPreset entry.1 = true) (replica : Option Nat)
    (name : String) :
    network.applyWeights weights replica name =
      ({ network with store := network.storeAfter (network.presetSteps weights replica) },
        Blend.outcome name
          (Blend.runSteps (network.presetSteps weights replica) network.store).2) := by
  rcases network.applyWeights_cases weights replica name with ⟨refused, -⟩ | ⟨-, applied⟩
  · obtain ⟨entry, listed, unknown⟩ := (network.isRefusal_applyWeights weights replica name).mp
      refused
    cases (known entry listed).symm.trans unknown
  · exact applied

theorem Undisturbed.place?_eq {network : Network P} {endpoint : Blend.Endpoint}
    {full idle : String} {terminal : Terminal} {ch : Nat}
    (undisturbed : network.Undisturbed endpoint full idle terminal ch) :
    (network.storeAfter (network.presetSteps (endpoint.weights full idle) none)).place? terminal
        ch = (network.storeAfter (network.presetSteps [(full, 1)] none)).place? terminal ch := by
  have aligned : Blend.Aligned endpoint terminal ch
      (network.presetSteps (endpoint.weights full idle) none)
      (network.presetSteps [(full, 1)] none) :=
    .flatMap fun site listed => Blend.aligned_siteSteps network.store site (by
      cases endpoint with
      | first => exact Blend.orderOf_first site full idle
      | second => exact undisturbed.ordered rfl site listed)
  exact aligned.place?_runSteps (fun _ _ => rfl) undisturbed.settled (.inl rfl)

theorem store_applyPreset_of_known {network : Network P} {label : String}
    (known : network.hasPreset label = true) :
    (network.applyPreset label none).1.store =
      network.storeAfter (network.presetSteps [(label, 1)] none) := by
  rw [applyPreset, applyWeights_of_known fun entry listed => by
    rw [List.mem_singleton.mp listed]
    exact known]

theorem applyDualPreset_of_known {network : Network P} {first second : String}
    (knownFirst : network.hasPreset first = true) (knownSecond : network.hasPreset second = true)
    {coefficient : Float} (isCoefficient : PresetSelector.isCoefficient coefficient = true) :
    let steps :=
      network.presetSteps [(first, 1 - coefficient), (second, coefficient)] none
    network.applyDualPreset first second coefficient none =
      ({ network with store := network.storeAfter steps },
        Blend.outcome (first ++ "|" ++ second) (Blend.runSteps steps network.store).2) := by
  intro steps
  rw [applyDualPreset, if_pos isCoefficient, applyWeights_of_known]
  intro entry listed
  simp only [List.mem_cons, List.not_mem_nil, or_false] at listed
  rcases listed with rfl | rfl
  · exact knownFirst
  · exact knownSecond

/-- A field that a body has a literal for which does not convert is left as it is, and is reported
in the course of the steps. -/
theorem fault_of_refused_literal {network : Network P} {weights : Weights} {site : Site P}
    (listed : site ∈ network.level.sites) {label : String} {var ch : Nat}
    (indexed : site.proc.variableIndex? label = some var)
    (accepted : site.proc.description.rejects label = false)
    (below : ch < network.store.channelCount (Blend.fieldOf site weights label var ch).terminals)
    {body : Option Assignments × Float}
    (isBody : body ∈ (Blend.fieldOf site weights label var ch).bodies) {literal : Literal}
    (isGiven : Blend.literal? body.1 label ch = some literal) {fault : ValueError}
    (refused : literal.toValue (Blend.fieldOf site weights label var ch).type = .error fault) :
    (∀ store : Store P, ((Blend.fieldOf site weights label var ch).apply store).1 = store) ∧
      ∃ fault, ⟨site.proc.label, label, .value fault⟩ ∈
        (Blend.runSteps (network.presetSteps weights none) network.store).2 := by
  have unblended (store : Store P) := Blend.Field.exists_fault isBody isGiven refused store
  refine ⟨fun store => ?_, ?_⟩
  · obtain ⟨fault, isFault⟩ := unblended store
    rw [Blend.Field.apply_eq, isFault]
  · have mentioned : label ∈ Blend.mentionedLabels (Blend.bodies site weights) := by
      obtain ⟨written, isWritten, -⟩ := Option.bind_eq_some_iff.mp isGiven
      exact Blend.mem_mentionedLabels isBody isWritten
    have isStep : .blend (Blend.fieldOf site weights label var ch) ∈
        network.presetSteps weights none :=
      Blend.blend_mem_steps.mpr
        ⟨site, listed, rfl, label, mentioned, var, indexed, accepted, ch, below, rfl⟩
    obtain ⟨earlier, later, split⟩ := List.append_of_mem isStep
    obtain ⟨fault, isFault⟩ := unblended (network.storeAfter earlier)
    refine ⟨fault, Blend.mem_runSteps_snd split ?_⟩
    rw [storeAfter] at isFault
    rw [Blend.Step.run, Blend.Field.apply_eq, isFault]
    exact List.mem_singleton_self _

/-- Blends of two known presets, in any network in any state. With all of the weight on one
preset, every channel of a variable that a body resolved for it mentions holds what this preset
alone would have given it, in every place behind the variable which the idle preset does not
disturb. With any coefficient, a field for which a literal of one of the presets does not convert
is left as it is, and is reported. -/
theorem dual_endpoints (network : Network P) {first second : String}
    (knownFirst : network.hasPreset first = true) (knownSecond : network.hasPreset second = true) :
    (∀ site ∈ network.level.sites, ∀ label var ch, site.proc.variableIndex? label = some var →
      ((Blend.given? site first label ch).isSome = true →
        ∀ terminal ∈ site.proc.terminals var,
          network.Undisturbed .first first second terminal ch →
            (network.applyDualPreset first second 0 none).1.store.place? terminal ch =
              (network.applyPreset first none).1.store.place? terminal ch) ∧
      ((Blend.given? site second label ch).isSome = true →
        ∀ terminal ∈ site.proc.terminals var,
          network.Undisturbed .second second first terminal ch →
            (network.applyDualPreset first second 1 none).1.store.place? terminal ch =
              (network.applyPreset second none).1.store.place? terminal ch)) ∧
      ∀ coefficient, PresetSelector.isCoefficient coefficient = true →
        let weights := [(first, 1 - coefficient), (second, coefficient)]
        ∀ site ∈ network.level.sites, ∀ label var ch, site.proc.variableIndex? label = some var →
          site.proc.description.rejects label = false →
            let field := Blend.fieldOf site weights label var ch
            ch < network.store.channelCount field.terminals →
              ∀ preset ∈ [first, second], ∀ literal fault,
                Blend.given? site preset label ch = some literal →
                  literal.toValue field.type = .error fault →
                    (∀ store : Store P, (field.apply store).1 = store) ∧
                      ∃ fault, ⟨site.proc.label, label, .value fault⟩ ∈ Blend.reported
                        (network.applyDualPreset first second coefficient none).2 := by
  refine ⟨fun site listed label var ch indexed => ⟨fun given terminal leads undisturbed => ?_,
    fun given terminal leads undisturbed => ?_⟩, ?_⟩
  · rw [store_applyPreset_of_known knownFirst, ← undisturbed.place?_eq,
      applyDualPreset_of_known knownFirst knownSecond (by decide)]
    rfl
  · rw [store_applyPreset_of_known knownSecond, ← undisturbed.place?_eq,
      applyDualPreset_of_known knownFirst knownSecond (by decide)]
    rfl
  · intro coefficient isCoefficient weights site listed label var ch indexed accepted field below
      preset isPreset literal fault given refused
    obtain ⟨body, isBody, isGiven⟩ : ∃ body ∈ field.bodies,
        Blend.literal? body.1 label ch = some literal := by
      simp only [List.mem_cons, List.not_mem_nil, or_false] at isPreset
      rcases isPreset with rfl | rfl
      · exact ⟨_, List.mem_cons_self, given⟩
      · exact ⟨_, List.mem_cons_of_mem _ List.mem_cons_self, given⟩
    rw [applyDualPreset_of_known knownFirst knownSecond isCoefficient, Blend.reported_outcome]
    exact fault_of_refused_literal listed indexed accepted below isBody isGiven refused

end Network

/-! ## A dial with many presets -/

namespace Dials

/-- A positive number beyond all finite ones. -/
def endless : Float := 1 / 0

def constant : ClassDescription Builtin :=
  ⟨"number", [⟨"value", "", some .double, .empty, none, false, none⟩,
    ⟨"out", "", some .double, .empty, none, false, none⟩], [], .plain Builtin.numberClass, none⟩

/-- A subnet around a constant, with three variables for its value: two for the number, and one that
counts in whole steps. -/
def dial : ClassDescription Builtin :=
  let level (label : String) (type : ValueType) (target : String) : Declaration :=
    ⟨label, "", some type, .empty, none, false, some ⟨"inner", target⟩⟩
  ⟨"dial", [level "fine" .double "value", level "rough" .double "value",
    level "steps" .int "value", level "out" .double "out"], [],
    .subnet ⟨[⟨"inner", "number", .empty, [], none, none, none⟩], []⟩, none⟩

def presets : List NetworkPreset :=
  let preset (label : String) (values : List (String × Literal)) : NetworkPreset :=
    ⟨label, [("dial", .inline ⟨values⟩)]⟩
  [preset "low" [("fine", .float 1.5)], preset "high" [("fine", .float 2)],
    preset "text" [("fine", .string "loud")], preset "endless" [("fine", .float endless)],
    preset "silent" [("out", .float 0)], preset "steps" [("steps", .int 3)],
    preset "rough" [("rough", .float 1)],
    preset "both" [("fine", .float 1), ("rough", .float 2)]]

/-- One dial with presets. -/
def template : Template := ⟨[⟨"dial", "dial", .empty, [], none, none, none⟩], presets⟩

def innerProc : Proc Builtin := .native ⟨"inner", none, constant, [], none⟩ 0

def dialProc : Proc Builtin :=
  .subnet ⟨"dial", none, dial, [], none⟩ [innerProc] [0] [] [[(0, 0)], [(0, 0)], [(0, 0)], [(0, 1)]]

/-- What is built from the template. -/
def network : Network Builtin :=
  ⟨"root", ⟨[dialProc], [0], presets⟩,
    [⟨.number 0 1, ⟨[⟨"value", .double, .empty, [.double 0]⟩,
      ⟨"out", .double, .empty, [.double 0]⟩]⟩⟩], [], .standard, 0⟩

theorem built : Network.build ⟨[constant, dial]⟩ template .standard [] = .ok network := rfl

/-- Presets that give a number to the fine variable are not disturbed by each other, nor by the one
that gives a number to the rough variable, which is another name for the same place. -/
theorem undisturbed (endpoint : Blend.Endpoint) {full idle : String}
    (isFull : full ∈ ["low", "high"]) (isIdle : idle ∈ ["low", "high", "rough"]) :
    network.Undisturbed endpoint full idle ⟨0, 0⟩ 0 := by
  simp only [List.mem_cons, List.not_mem_nil, or_false] at isFull isIdle
  rcases isFull with rfl | rfl <;> rcases isIdle with rfl | rfl | rfl <;> cases endpoint <;>
    exact ⟨by decide +kernel, by decide +kernel⟩

/-- A variable of another type does no harm if it comes first, as the fine one is written over
it. -/
example : network.Undisturbed .second "low" "steps" ⟨0, 0⟩ 0 :=
  ⟨by decide +kernel, by decide +kernel⟩

end Dials

namespace Network

/-- A preset without weight makes a difference where its literal does not convert or is not finite;
where it goes to the same place through a variable of another type, or through one of the same type
but the value there is negative zero; where its variables come first and change the order of the
others; and where it has no literal and the live value is not finite. -/
theorem idle_preset_disturbs :
    Network.build ⟨[Dials.constant, Dials.dial]⟩ Dials.template .standard [] = .ok Dials.network ∧
      (∀ label ∈ ["low", "text", "endless", "silent", "steps", "rough", "both"],
        Dials.network.hasPreset label = true) ∧
      (∃ site ∈ Dials.network.level.sites, site.proc.variableIndex? "fine" = some 0 ∧
        site.proc.terminals 0 = [⟨0, 0⟩] ∧ (Blend.given? site "low" "fine" 0).isSome = true ∧
          (Blend.given? site "both" "fine" 0).isSome = true) ∧
      (∀ idle ∈ ["text", "endless", "steps"],
        (Dials.network.applyDualPreset "low" idle 0 none).1.store.place? ⟨0, 0⟩ 0 ≠
          (Dials.network.applyPreset "low" none).1.store.place? ⟨0, 0⟩ 0) ∧
      (Dials.network.applyDualPreset "rough" "both" 1 none).1.store.place? ⟨0, 0⟩ 0 ≠
        (Dials.network.applyPreset "both" none).1.store.place? ⟨0, 0⟩ 0 ∧
      let reached (fine : Float) :=
        Dials.network.performAll [.set "dial" "fine" 0 (.double fine)]
      ((reached Dials.endless).applyDualPreset "low" "silent" 0 none).1.store.place? ⟨0, 0⟩ 0 ≠
          ((reached Dials.endless).applyPreset "low" none).1.store.place? ⟨0, 0⟩ 0 ∧
        ((reached (-0)).applyDualPreset "text" "rough" 0 none).1.store.place? ⟨0, 0⟩ 0 ≠
          ((reached (-0)).applyPreset "text" none).1.store.place? ⟨0, 0⟩ 0 := by
  refine ⟨Dials.built, by decide +kernel,
    ⟨_, List.mem_of_getElem? (i := 1) rfl, rfl, rfl, rfl, rfl⟩, ?_, ?_, ?_, ?_⟩ <;>
    decide +kernel

/-- Two numbers for one variable do not disturb each other, nor does one for another variable in
front of the same place; a text in the place of a number is reported. -/
theorem dials_endpoints :
    Network.build ⟨[Dials.constant, Dials.dial]⟩ Dials.template .standard [] = .ok Dials.network ∧
      (∀ idle ∈ ["high", "rough"],
        (Dials.network.applyDualPreset "low" idle 0 none).1.store.place? ⟨0, 0⟩ 0 =
            some (.double 1.5) ∧
          (Dials.network.applyDualPreset idle "low" 1 none).1.store.place? ⟨0, 0⟩ 0 =
            some (.double 1.5)) ∧
      ∃ fault, ⟨"dial", "fine", .value fault⟩ ∈ Blend.reported
          (Dials.network.applyDualPreset "low" "text" 0 none).2 := by
  have listed : ⟨Dials.dialProc, Dials.presets⟩ ∈ Dials.network.level.sites :=
    List.mem_of_getElem? (i := 1) rfl
  have knows : ∀ label ∈ ["low", "high", "rough", "text"],
      Dials.network.hasPreset label = true := by
    decide +kernel
  have alone : (Dials.network.applyPreset "low" none).1.store.place? ⟨0, 0⟩ 0 =
      some (.double 1.5) := by
    decide +kernel
  refine ⟨Dials.built, fun idle isIdle => ⟨?_, ?_⟩, ?_⟩
  · obtain ⟨endpoints, -⟩ := Dials.network.dual_endpoints (knows "low" (by decide))
      (knows idle (List.mem_cons_of_mem _ (List.mem_append_left ["text"] isIdle)))
    rw [← alone]
    exact (endpoints _ listed "fine" 0 0 rfl).1 rfl ⟨0, 0⟩ (List.mem_singleton_self _)
      (Dials.undisturbed .first (by decide) (List.mem_cons_of_mem _ isIdle))
  · obtain ⟨endpoints, -⟩ := Dials.network.dual_endpoints
      (knows idle (List.mem_cons_of_mem _ (List.mem_append_left ["text"] isIdle)))
      (knows "low" (by decide))
    rw [← alone]
    exact (endpoints _ listed "fine" 0 0 rfl).2 rfl ⟨0, 0⟩ (List.mem_singleton_self _)
      (Dials.undisturbed .second (by decide) (List.mem_cons_of_mem _ isIdle))
  · obtain ⟨-, refused⟩ := Dials.network.dual_endpoints (knows "low" (by decide))
      (knows "text" (by decide))
    exact (refused 0 (by decide) _ listed "fine" 0 0 rfl rfl (by decide +kernel) "text"
      (by decide) _ _ rfl rfl).2

end Network

end SignalNet
