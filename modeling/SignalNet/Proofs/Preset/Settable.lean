import SignalNet.Proofs.Network.Linkage
import SignalNet.Proofs.Preset.Isolation
import SignalNet.Proofs.Preset.Omission

/-!
Contract: without the entries that no proc can take, none of that kind is reported.

A preset of a class is for procs of this class only. A preset of a network has its values by
the label of a proc, and a label stands for all voices of one proc. These are of one class, so what
one of them cannot take none of them can, and the entry is left out for all. So every variable
that is still mentioned for a proc can be set, and what is reported are exactly the other failures.

Owns: that what is left out is all that cannot be taken (`rejects_of_mem_mentionedLabels`), and
what is reported without it (`reported_without_all`).
-/

set_option autoImplicit false

namespace SignalNet

variable {P : Type}

/-! ## What is left can be set -/

theorem Level.rejects_of_body_without_all {level : Level P} {proc : Proc P}
    (oneClass : ∀ other ∈ level.procs, other.label = proc.label →
      other.description = proc.description)
    {preset : String} {values : Assignments}
    (isBody : Blend.body ⟨proc.without .all, level.presetsWithout .all⟩ preset =
      .ok (some values))
    {label : String} (mentioned : label ∈ values.labels) :
    proc.description.rejects label = false := by
  obtain ⟨omitted, isOmitted, trimmed⟩ := level.body_without .all proc preset
  rw [trimmed] at isBody
  obtain ⟨full?, -, isLess⟩ := map_eq_ok.mp isBody
  obtain ⟨full, -, rfl⟩ := Option.map_eq_some_iff.mp isLess
  rw [Assignments.labels_without, List.mem_filter, Bool.not_eq_true'] at mentioned
  obtain ⟨-, kept⟩ := mentioned
  rcases isOmitted with ⟨ofClass, rfl⟩ | rfl
  · exact kept
  · obtain ⟨other, member, takes⟩ := List.all_eq_false.mp kept
    obtain ⟨sameLabel, accepted⟩ : other.label = proc.label ∧
        other.description.rejects label = false := by simpa using takes
    rwa [← oneClass other member sameLabel]

theorem rejects_of_mem_mentionedLabels [Processor P] {classes : ClassSet P} {template : Template}
    {timing : Timing} {devices : List Device} {network : Network P}
    (built : Network.build classes template timing devices = .ok network) {site : Site P}
    (listed : site ∈ (network.level.without .all).sites) {weights : Weights} {label : String}
    (mentioned : label ∈ Blend.mentionedLabels (Blend.bodies site weights)) :
    site.proc.description.rejects label = false := by
  obtain ⟨_, -, around, within, proc, member, -, rfl⟩ :=
    exists_of_mem_forall₂ (network.level.pairs_sites .all) listed
  obtain ⟨preset, -, values, isBody, isLabel⟩ := Blend.mentions_of_mem_mentionedLabels mentioned
  rw [proc.description_without .all]
  exact Level.rejects_of_body_without_all
    (fun other alsoMember => Build.description_eq_of_label built within member alsoMember)
    isBody isLabel

/-! ## What is still reported -/

namespace Blend

theorem others_eq_self {failures : List PresetFailure}
    (each : ∀ failure ∈ failures, isRejection failure = false) : others failures = failures :=
  List.filter_eq_self.mpr fun failure member => by rw [each failure member]; rfl

variable [Processor P] {proc : Proc P} {bodies : WeightedBodies}

theorem isRejection_of_accepted {label : String}
    (accepted : proc.description.rejects label = false) {store : Store P} {fault : PresetFault}
    (reported : fault ∈ (applyVariable proc bodies label store).2) :
    isRejection ⟨proc.label, label, fault⟩ = false := by
  unfold applyVariable at reported
  cases indexed : proc.variableIndex? label with
  | none => cases accepted.symm.trans (Proc.rejects_of_none indexed)
  | some var =>
      rw [Proc.rejects_of_some indexed] at accepted
      simp only [indexed, accepted, Bool.false_eq_true, if_false, List.mem_append] at reported
      rcases reported with tooLong | ofValue
      · obtain ⟨values, -, isFault⟩ := List.mem_filterMap.mp tooLong
        obtain ⟨length, -, rfl⟩ := Option.map_eq_some_iff.mp isFault
        rfl
      · obtain ⟨fault, -, rfl⟩ := List.mem_map.mp ofValue
        rfl

theorem others_applyVariables {labels : List String}
    (accepted : ∀ label ∈ labels, proc.description.rejects label = false) (store : Store P) :
    others (applyVariables proc bodies labels store).2 =
      (applyVariables proc bodies labels store).2 := by
  induction labels generalizing store with
  | nil => rfl
  | cons label rest inductionHypothesis =>
      obtain ⟨first, later⟩ := List.forall_mem_cons.mp accepted
      simp only [applyVariables, others_append]
      rw [inductionHypothesis later, others_eq_self]
      intro failure member
      obtain ⟨fault, reported, rfl⟩ := List.mem_map.mp member
      exact isRejection_of_accepted first reported

omit [Processor P] in
/-- A body is only missing where an entry names a preset that the class does not have. -/
theorem fault_of_body_eq_error {site : Site P} {preset : String} {fault : PresetFault}
    (failed : body site preset = .error fault) :
    ∃ named, fault = .noClassPreset site.proc.description.label named := by
  unfold body at failed
  dsimp only at failed
  split at failed
  · cases failed
  · rename_i named _
    split at failed <;> cases failed
    exact ⟨named, rfl⟩
  · cases failed

omit [Processor P] in
theorem others_unresolved (site : Site P) (weights : Weights) :
    others (unresolved site weights) = unresolved site weights := by
  refine others_eq_self fun failure member => ?_
  obtain ⟨entry, -, isFailure⟩ := List.mem_filterMap.mp member
  dsimp only at isFailure
  cases outcome : body site entry.1 with
  | ok body? =>
      rw [outcome] at isFailure
      cases isFailure
  | error fault =>
      rw [outcome] at isFailure
      cases isFailure
      obtain ⟨named, rfl⟩ := fault_of_body_eq_error outcome
      rfl

theorem others_applySites {weights : Weights} {replica : Option Nat} {sites : List (Site P)}
    (accepted : ∀ site ∈ sites, ∀ label ∈ mentionedLabels (Blend.bodies site weights),
      site.proc.description.rejects label = false) (store : Store P) :
    others (applySites weights replica sites store).2 =
      (applySites weights replica sites store).2 := by
  induction sites generalizing store with
  | nil => rfl
  | cons site rest inductionHypothesis =>
      obtain ⟨first, later⟩ := List.forall_mem_cons.mp accepted
      have here : others (applySite weights replica site store).2 =
          (applySite weights replica site store).2 := by
        unfold applySite
        split
        · rw [others_append, others_unresolved, applyBodies, others_applyVariables first]
        · rfl
      simp only [applySites, others_append, here, inductionHypothesis later]

end Blend

/-- Without all entries that no proc can take, the other failures are reported and nothing
else. -/
theorem Network.reported_without_all [Processor P] {classes : ClassSet P} {template : Template}
    {timing : Timing} {devices : List Device} {network : Network P}
    (built : Network.build classes template timing devices = .ok network)
    (operations : List Operation) (weights : Weights) (replica : Option Nat) (name : String) :
    let reached := network.performAll operations
    Blend.reported ((reached.without .all).applyWeights weights replica name).2 =
      Blend.others (Blend.reported (reached.applyWeights weights replica name).2) := by
  intro reached
  rw [← (reached.applyWeights_without .all weights replica name).2]
  unfold applyWeights
  split
  · rfl
  · dsimp only
    rw [Blend.reported_outcome, Blend.others_applySites]
    intro site listed label mentioned
    have sameLevel : reached.level = network.level := network.level_performAll operations
    have isSite : site ∈ (network.level.without .all).sites := by rwa [← sameLevel]
    exact rejects_of_mem_mentionedLabels built isSite mentioned

end SignalNet
