import SignalNet.Proofs.Network.LeastOrder

/-!
Contract: which procs are left when the releases get stuck.

Left are the procs on a circle and all that read from one of them, through any number of others.
All of them still wait, and no released one does, so the first proc that waits is the first of all
that lead to a circle.

Owns: things that lead to a circle (`LeadsToCircle`), and the proc that stuck releases name
(`releaseOrder_eq_error`).
-/

set_option autoImplicit false

namespace SignalNet

open Relation (ReflTransGen TransGen)

/-! ## Circles -/

/-- A thing is on a circle, or leads to one. -/
def LeadsToCircle {α : Type} (relation : α → α → Prop) (item : α) : Prop :=
  ∃ culprit, ReflTransGen relation item culprit ∧ TransGen relation culprit culprit

section

variable {α : Type} {relation : α → α → Prop} {item : α}

theorem LeadsToCircle.of_self (related : relation item item) : LeadsToCircle relation item :=
  ⟨item, .refl, .single related⟩

theorem LeadsToCircle.exists_next (leads : LeadsToCircle relation item) :
    ∃ other, relation item other ∧ LeadsToCircle relation other := by
  obtain ⟨culprit, path, circle⟩ := leads
  rcases path.cases_head with rfl | ⟨other, first, rest⟩
  · obtain ⟨other, first, rest⟩ := TransGen.head'_iff.mp circle
    exact ⟨other, first, item, rest, circle⟩
  · exact ⟨other, first, culprit, rest, circle⟩

theorem LeadsToCircle.congr {other : α → α → Prop} (same : ∀ a b, relation a b ↔ other a b) :
    LeadsToCircle relation item ↔ LeadsToCircle other item := by
  have equal : relation = other := funext₂ fun a b => propext (same a b)
  rw [equal]

/-- Where every one of finitely many things leads to another one of them, each leads to a
circle. -/
theorem leadsToCircle_of_mem {items : List α}
    (next : ∀ item ∈ items, ∃ other ∈ items, relation item other) (member : item ∈ items) :
    LeadsToCircle relation item := by
  classical
  -- the circle is looked for among those that the item leads to
  let ahead := items.filter (ReflTransGen relation item ·)
  have isAhead : item ∈ ahead := List.mem_filter.mpr ⟨member, by simp [ReflTransGen.refl]⟩
  obtain ⟨culprit, circle⟩ : ∃ culprit,
      TransGen (fun a b => ReflTransGen relation item a ∧ relation a b) culprit culprit := by
    refine exists_circle (List.ne_nil_of_mem isAhead) fun other otherAhead => ?_
    obtain ⟨listed, path⟩ := List.mem_filter.mp otherAhead
    replace path : ReflTransGen relation item other := by simpa using path
    obtain ⟨further, alsoListed, related⟩ := next other listed
    refine ⟨further, List.mem_filter.mpr ⟨alsoListed, ?_⟩, path, related⟩
    simpa using path.tail related
  obtain ⟨_, ⟨path, -⟩, -⟩ := TransGen.head'_iff.mp circle
  exact ⟨culprit, path, circle.lift id fun _ _ step => step.2⟩

end

/-! ## Stuck releases -/

variable {sources : List (List Nat)}

/-- Where every source of a proc stands before it, no proc leads to a circle. -/
theorem SourcesFirst.not_leadsToCircle {order : List Nat}
    (sourcesFirst : SourcesFirst sources order) {proc : Nat} (member : proc ∈ order) :
    ¬ LeadsToCircle (ReadsFrom sources) proc := by
  obtain ⟨before, behind, split⟩ := List.append_of_mem member
  -- the sources of a proc have fewer procs before them
  induction fewer : before.length using Nat.strong_induction_on
    generalizing proc before behind with
  | _ count inductionHypothesis =>
      intro leads
      obtain ⟨source, reads, sourceLeads⟩ := leads.exists_next
      have isBefore := sourcesFirst before proc behind split source reads
      obtain ⟨first, second, splitBefore⟩ := List.append_of_mem isBefore
      have isOrder : order = first ++ source :: (second ++ proc :: behind) := by
        rw [split, splitBefore, List.append_assoc, List.cons_append]
      have shorter : first.length < count := by
        rw [← fewer, splitBefore, List.length_append, List.length_cons]
        omega
      exact inductionHypothesis first.length shorter (isOrder ▸ by simp) first _ isOrder rfl
        sourceLeads

namespace Release

variable {state : Release}

/-- The procs that wait for others when the releases are stuck are those that are left, which are
those that lead to a circle. -/
theorem Sound.waits_iff_leadsToCircle (sound : Sound sources state) (inRange : InRange sources)
    (stuck : state.next? = none) {proc : Nat} (below : proc < sources.length) :
    0 < state.waiting[proc]?.getD 0 ↔ LeadsToCircle (ReadsFrom sources) proc := by
  have counted : ∃ count, state.waiting[proc]? = some count :=
    ⟨_, List.getElem?_eq_getElem (sound.length_waiting ▸ below)⟩
  obtain ⟨count, here⟩ := counted
  have notNegative := sound.waiting_nonneg count (List.mem_of_getElem? here)
  have ready : count = 0 ↔ ∀ source ∈ sourcesAt sources proc, source ∈ state.released := by
    rw [← sound.ready_iff below, here, Option.some.injEq]
  rw [here, Option.getD_some]
  by_cases isReleased : proc ∈ state.released
  · refine iff_of_false (fun waits => ?_) (sound.sourcesFirst.not_leadsToCircle isReleased)
    obtain ⟨before, behind, split⟩ := List.append_of_mem isReleased
    have served := ready.mpr fun source reads =>
      split ▸ List.mem_append_left _ (sound.sourcesFirst before proc behind split source reads)
    omega
  · refine iff_of_true ?_
      (leadsToCircle_of_mem (fun _ => sound.reads_left inRange stuck)
        (mem_left.mpr ⟨below, isReleased⟩))
    obtain ⟨source, reads, fresh⟩ :=
      sound.exists_waiting_of_next?_eq_none stuck below isReleased
    have waits : count ≠ 0 := fun served => fresh (ready.mp served source reads)
    omega

end Release

/-- Where releases find no order, they name the first proc that leads to a circle. -/
theorem releaseOrder_eq_error (inRange : InRange sources) {named : Nat}
    (failed : releaseOrder sources = .error named) :
    LeadsToCircle (ReadsFrom sources) named ∧
      ∀ earlier < named, ¬ LeadsToCircle (ReadsFrom sources) earlier := by
  have sound := (Release.sound_start sources).run sources.length
  simp only [releaseOrder] at failed
  split at failed
  · cases failed
  · rename_i incomplete
    have stuck := Release.next?_eq_none_of_incomplete incomplete
    cases found : (List.range sources.length).find? fun proc =>
        (Release.run sources sources.length (Release.start sources)).waiting[proc]?.getD 0 > 0 with
    | none =>
        obtain ⟨proc, isLeft⟩ := List.exists_mem_of_ne_nil _ (sound.left_ne_nil incomplete)
        obtain ⟨below, -⟩ := Release.mem_left.mp isLeft
        have passed := List.find?_eq_none.mp found proc (List.mem_range.mpr below)
        have leads := leadsToCircle_of_mem (fun _ => sound.reads_left inRange stuck) isLeft
        exact absurd ((sound.waits_iff_leadsToCircle inRange stuck below).mpr leads)
          (by simpa using passed)
    | some first =>
        rw [found] at failed
        obtain rfl : first = named := by simpa using failed
        obtain ⟨waits, listed, passed⟩ := List.find?_range_eq_some.mp found
        have below := List.mem_range.mp listed
        refine ⟨(sound.waits_iff_leadsToCircle inRange stuck below).mp (by simpa using waits),
          fun earlier before leads => ?_⟩
        have alsoWaits :=
          (sound.waits_iff_leadsToCircle inRange stuck (before.trans below)).mpr leads
        have notNamed := passed earlier before
        simp [alsoWaits] at notNamed

end SignalNet
