import SignalNet.Native.Descriptions
import SignalNet.Proofs.Schema.Nesting

/-!
Contract: the order of declaration does not matter.

Tables contain classes, each in a section. Two sequences of tables with the same
contents fill catalogues with the same classes, if they can be read at all; and
catalogues with the same classes finish with sets that give the same description for
every label, if they finish at all.

Owns: the contents of tables (`TableItem`), catalogues with the same classes
(`Catalogue.SameClasses`), and the independence of loading from the order
(`load_eq_of_perm`).
-/

set_option autoImplicit false

namespace SignalNet

variable {P : Type}

namespace Catalogue

/-! ## Catalogues with the same classes -/

/-- Two catalogues hold the same classes, maybe in another order. -/
structure SameClasses (first second : Catalogue P) : Prop where
  registry : first.registry = second.registry
  plain : first.plain.Perm second.plain
  subnets : first.subnets.Perm second.subnets
  labels : first.labels.Perm second.labels

namespace SameClasses

variable {first second third : Catalogue P}

theorem refl (catalogue : Catalogue P) : SameClasses catalogue catalogue :=
  ⟨rfl, .refl _, .refl _, .refl _⟩

theorem symm (same : SameClasses first second) : SameClasses second first :=
  ⟨same.registry.symm, same.plain.symm, same.subnets.symm, same.labels.symm⟩

theorem trans (left : SameClasses first second) (right : SameClasses second third) :
    SameClasses first third :=
  ⟨left.registry.trans right.registry, left.plain.trans right.plain,
    left.subnets.trans right.subnets, left.labels.trans right.labels⟩

theorem settled (same : SameClasses first second) {description : ClassDescription P}
    (settled : Settled first description) : Settled second description := by
  induction settled with
  | plain member => exact .plain (same.plain.mem_iff.mp member)
  | subnet member isSubnet labelled _ resolved inductionHypothesis =>
      exact .subnet (same.subnets.mem_iff.mp member) isSubnet labelled inductionHypothesis resolved

end SameClasses

end Catalogue

/-- Circles of nesting depend only on what a set says about labels. -/
theorem ClassSet.Acyclic.congr {first second : ClassSet P} (acyclic : first.Acyclic)
    (same : ∀ label, first.get? label = second.get? label) : second.Acyclic := by
  have nests : second.Nests = first.Nests := by
    funext outer inner
    simp only [ClassSet.Nests, ClassSet.template?, same]
  rw [ClassSet.Acyclic, nests]
  exact acyclic

namespace Catalogue

variable {first second : Catalogue P}

/-- A catalogue with the same classes finishes as well, and says the same about every
label. -/
theorem SameClasses.finish (same : SameClasses first second) (firstFormed : first.WellFormed)
    (secondFormed : second.WellFormed) {set : ClassSet P} (finished : first.finish = .ok set) :
    ∃ other, second.finish = .ok other ∧ ∀ label, set.get? label = other.get? label := by
  obtain ⟨resolved, checked⟩ := firstFormed.finish_eq_ok.mp finished
  have settleable := firstFormed.exists_resolveAll_iff.mp ⟨set, resolved⟩
  obtain ⟨other, otherResolved⟩ := secondFormed.exists_resolveAll_iff.mpr fun subnet member => by
    obtain ⟨description, settled, labelled⟩ := settleable subnet (same.subnets.mem_iff.mpr member)
    exact ⟨description, same.settled settled, labelled⟩
  have sameClass : ∀ label, set.get? label = other.get? label := by
    intro label
    apply Option.ext
    intro description
    rw [firstFormed.get?_resolved resolved, secondFormed.get?_resolved otherResolved]
    exact and_congr_left fun _ => ⟨same.settled, same.symm.settled⟩
  have acyclic := ClassSet.checkNesting_eq_ok_iff.mp checked
  exact ⟨other, secondFormed.finish_eq_ok.mpr ⟨otherResolved,
    ClassSet.checkNesting_eq_ok_iff.mpr (acyclic.congr sameClass)⟩, sameClass⟩

end Catalogue

/-! ## The contents of tables -/

/-- One thing that a table contains: a class in a section, or something else under a key. -/
inductive TableItem where
  | entry (kind : ClassSection) (label : String) (body : Toml)
  | other (key : String) (value : Toml)

/-- What an entry of a table contains: the classes of a section, in order. -/
def sectionItems (key : String) (value : Toml) : List TableItem :=
  match Catalogue.sectionOf key, value with
  | .ok kind, .table entries => entries.map fun (label, body) => .entry kind label body
  | _, _ => [.other key value]

def tableItems (sections : List (String × Toml)) : List TableItem :=
  sections.flatMap fun (key, value) => sectionItems key value

namespace Catalogue

/-- Add one thing; what is no class is refused. -/
def addItem (catalogue : Catalogue P) : TableItem → Except SchemaError (Catalogue P)
  | .entry kind label body => catalogue.addClass kind label body
  | .other key _ => .error (.badSyntax key .unknownSection)

/-- Add a table that has to be read to the end. -/
def readTable (catalogue : Catalogue P) (sections : List (String × Toml)) :
    Except SchemaError (Catalogue P) :=
  match catalogue.addTable sections with
  | (larger, .ok ()) => .ok larger
  | (_, .error fault) => .error fault

/-- Read tables in turn, and finish. -/
def load (registry : Registry P) (tables : List (List (String × Toml))) :
    Except SchemaError (ClassSet P) := do
  let catalogue ← tables.foldlM readTable (empty registry)
  catalogue.finish

variable {catalogue larger : Catalogue P}

theorem addSection_eq_ok {kind : ClassSection} {entries : List (String × Toml)} :
    addSection kind catalogue entries = (larger, .ok ()) ↔
      (entries.map fun (label, body) => TableItem.entry kind label body).foldlM addItem catalogue =
        .ok larger := by
  induction entries generalizing catalogue with
  | nil => simp [addSection, pure, Except.pure]
  | cons entry rest inductionHypothesis =>
      obtain ⟨label, body⟩ := entry
      rw [addSection, List.map_cons, List.foldlM_cons, addItem]
      cases catalogue.addClass kind label body with
      | error fault => simp [bind, Except.bind]
      | ok next => exact inductionHypothesis

theorem foldlM_sectionItems_eq_ok {key : String} {value : Toml} :
    (sectionItems key value).foldlM addItem catalogue = .ok larger ↔
      ∃ kind entries, sectionOf key = .ok kind ∧ value = .table entries ∧
        addSection kind catalogue entries = (larger, .ok ()) := by
  unfold sectionItems
  cases sectionOf key with
  | error fault => simp [addItem, bind, Except.bind]
  | ok kind =>
      cases value with
      | table entries =>
          simp only [← addSection_eq_ok]
          constructor
          · intro added
            exact ⟨kind, entries, rfl, rfl, added⟩
          · rintro ⟨_, _, ⟨⟩, ⟨⟩, added⟩
            exact added
      | boolean | integer | float | string | datetime | array =>
          simp [addItem, bind, Except.bind]

theorem addTable_cons_eq_ok {key : String} {value : Toml} {rest : List (String × Toml)} :
    catalogue.addTable ((key, value) :: rest) = (larger, .ok ()) ↔
      ∃ next, (∃ kind entries, sectionOf key = .ok kind ∧ value = .table entries ∧
        addSection kind catalogue entries = (next, .ok ())) ∧
          next.addTable rest = (larger, .ok ()) := by
  rw [addTable.eq_def]
  cases known : sectionOf key with
  | error fault => simp [known]
  | ok kind =>
      cases value with
      | boolean | integer | float | string | datetime | array => simp [known]
      | table entries =>
          cases result : addSection kind catalogue entries with
          | mk next outcome => cases outcome <;> simp [known, result]

theorem readTable_eq_ok_iff {sections : List (String × Toml)} :
    catalogue.readTable sections = .ok larger ↔ catalogue.addTable sections = (larger, .ok ()) := by
  unfold readTable
  cases catalogue.addTable sections with
  | mk next outcome => cases outcome <;> simp

theorem readTable_eq_ok {sections : List (String × Toml)} :
    catalogue.readTable sections = .ok larger ↔
      (tableItems sections).foldlM addItem catalogue = .ok larger := by
  rw [readTable_eq_ok_iff]
  induction sections generalizing catalogue with
  | nil => simp [addTable, tableItems, pure, Except.pure]
  | cons entry rest inductionHypothesis =>
      rw [tableItems, List.flatMap_cons, List.foldlM_append, bind_eq_ok, addTable_cons_eq_ok]
      simp only [foldlM_sectionItems_eq_ok, inductionHypothesis, tableItems]

theorem foldlM_readTable_eq_ok {tables : List (List (String × Toml))} :
    tables.foldlM readTable catalogue = .ok larger ↔
      (tables.flatMap tableItems).foldlM addItem catalogue = .ok larger := by
  induction tables generalizing catalogue with
  | nil => rfl
  | cons table rest inductionHypothesis =>
      rw [List.foldlM_cons, List.flatMap_cons, List.foldlM_append, bind_eq_ok, bind_eq_ok]
      simp only [readTable_eq_ok, inductionHypothesis]

/-! ## What a table adds -/

theorem readClass_congr {first second : Catalogue P} (same : first.registry = second.registry)
    (kind : ClassSection) (label : String) (body : Toml) :
    first.readClass kind label body = second.readClass kind label body := by
  simp only [readClass, readKind, same]

theorem registry_store (kind : ClassSection) (description : ClassDescription P) :
    (catalogue.store kind description).registry = catalogue.registry := by
  cases kind <;> rfl

theorem plain_subset_of_foldlM_addItem {items : List TableItem}
    (added : items.foldlM addItem catalogue = .ok larger) : catalogue.plain ⊆ larger.plain := by
  intro description member
  refine foldlM_keeps (motive := fun catalogue => description ∈ catalogue.plain) member ?_ added
  intro item _ before next isThere here
  cases item with
  | other key value => cases here
  | entry kind label body =>
      obtain ⟨-, -, read, -, rfl⟩ := addClass_eq_ok.mp here
      cases kind with
      | plain => exact List.mem_append_left _ isThere
      | subnet => exact isThere

/-- Every plain class among some things that were all added has been read. -/
theorem exists_plain_of_foldlM_addItem {items : List TableItem}
    (added : items.foldlM addItem catalogue = .ok larger) {label : String} {body : Toml}
    (listed : .entry .plain label body ∈ items) :
    ∃ description, catalogue.readClass .plain label body = .ok description ∧
      description ∈ larger.plain := by
  induction items generalizing catalogue with
  | nil => cases listed
  | cons item rest inductionHypothesis =>
      rw [List.foldlM_cons] at added
      obtain ⟨next, here, others⟩ := bind_eq_ok.mp added
      rcases List.mem_cons.mp listed with rfl | later
      · obtain ⟨-, -, description, read, rfl⟩ := addClass_eq_ok.mp here
        exact ⟨description, read, plain_subset_of_foldlM_addItem others
          (List.mem_append_right _ (List.mem_singleton_self _))⟩
      · obtain ⟨description, read, member⟩ := inductionHypothesis others later
        refine ⟨description, ?_, member⟩
        cases item with
        | other key value => cases here
        | entry kind _ _ =>
            obtain ⟨-, -, _, -, rfl⟩ := addClass_eq_ok.mp here
            rw [← read]
            exact readClass_congr (registry_store kind _).symm _ _ _

/-! ## Rearranged contents -/

theorem SameClasses.section?_eq_none {first second : Catalogue P} (same : SameClasses first second)
    (label : String) : first.section? label = none ↔ second.section? label = none := by
  rw [Catalogue.section?_eq_none, Catalogue.section?_eq_none, (same.labels.map (·.1)).mem_iff]

theorem SameClasses.store {first second : Catalogue P} (same : SameClasses first second)
    (kind : ClassSection) (description : ClassDescription P) :
    SameClasses (first.store kind description) (second.store kind description) := by
  have labels := same.labels.append_right [(description.label, kind)]
  cases kind with
  | plain => exact ⟨same.registry, same.plain.append_right _, same.subnets, labels⟩
  | subnet => exact ⟨same.registry, same.plain, same.subnets.append_right _, labels⟩

theorem sameClasses_store_store (catalogue : Catalogue P) (kind other : ClassSection)
    (description further : ClassDescription P) :
    SameClasses ((catalogue.store kind description).store other further)
      ((catalogue.store other further).store kind description) := by
  have swapped : ∀ {α : Type} (items : List α) (left right : α),
      (items ++ [left] ++ [right]).Perm (items ++ [right] ++ [left]) := by
    intro α items left right
    rw [List.append_assoc, List.append_assoc]
    exact (List.Perm.swap _ _ _).append_left items
  cases kind <;> cases other <;>
    exact ⟨rfl, by first | exact swapped _ _ _ | exact .refl _,
      by first | exact swapped _ _ _ | exact .refl _, swapped _ _ _⟩

theorem addItem_congr {first second next : Catalogue P} (same : SameClasses first second)
    {item : TableItem} (added : first.addItem item = .ok next) :
    ∃ other, second.addItem item = .ok other ∧ SameClasses next other := by
  cases item with
  | other key value => cases added
  | entry kind label body =>
      obtain ⟨allowed, free, description, read, rfl⟩ := addClass_eq_ok.mp added
      rw [readClass_congr same.registry] at read
      exact ⟨_, addClass_eq_ok.mpr
        ⟨allowed, (same.section?_eq_none label).mp free, description, read, rfl⟩,
        same.store kind description⟩

theorem foldlM_addItem_congr {first second last : Catalogue P} (same : SameClasses first second)
    {items : List TableItem} (added : items.foldlM addItem first = .ok last) :
    ∃ other, items.foldlM addItem second = .ok other ∧ SameClasses last other := by
  induction items generalizing first second with
  | nil =>
      cases added
      exact ⟨second, rfl, same⟩
  | cons item rest inductionHypothesis =>
      rw [List.foldlM_cons] at added
      obtain ⟨next, here, others⟩ := bind_eq_ok.mp added
      obtain ⟨other, there, sameNext⟩ := addItem_congr same here
      obtain ⟨final, restThere, sameFinal⟩ := inductionHypothesis sameNext others
      exact ⟨final, by rw [List.foldlM_cons, there]; exact restThere, sameFinal⟩

theorem section?_store_eq_none {kind : ClassSection} {description : ClassDescription P}
    {label : String} :
    (catalogue.store kind description).section? label = none ↔
      catalogue.section? label = none ∧ label ≠ description.label := by
  rw [section?_eq_none, section?_eq_none]
  cases kind <;> simp [Catalogue.store, not_or]

/-- Two things may be added in either order. -/
theorem addItem_swap {next last : Catalogue P} {first second : TableItem}
    (early : catalogue.addItem first = .ok next) (late : next.addItem second = .ok last) :
    ∃ other final, catalogue.addItem second = .ok other ∧ other.addItem first = .ok final ∧
      SameClasses last final := by
  cases first with
  | other key value => cases early
  | entry kind label body =>
      cases second with
      | other key value => cases late
      | entry otherKind otherLabel otherBody =>
          obtain ⟨allowed, free, description, read, rfl⟩ := addClass_eq_ok.mp early
          obtain ⟨otherAllowed, otherFree, further, otherRead, rfl⟩ := addClass_eq_ok.mp late
          obtain ⟨otherFree, different⟩ := section?_store_eq_none.mp otherFree
          rw [readClass_congr (registry_store kind description)] at otherRead
          have readLater := read
          rw [← readClass_congr (registry_store otherKind further)] at readLater
          rw [(readClass_spec read).1] at different
          have distinct : label ≠ further.label := by
            rw [(readClass_spec otherRead).1]
            exact different.symm
          exact ⟨_, _,
            addClass_eq_ok.mpr ⟨otherAllowed, otherFree, further, otherRead, rfl⟩,
            addClass_eq_ok.mpr ⟨allowed, section?_store_eq_none.mpr ⟨free, distinct⟩, description,
              readLater, rfl⟩,
            sameClasses_store_store catalogue kind otherKind description further⟩

theorem foldlM_addItem_perm {last : Catalogue P} {first second : List TableItem}
    (rearranged : first.Perm second) (added : first.foldlM addItem catalogue = .ok last) :
    ∃ other, second.foldlM addItem catalogue = .ok other ∧ SameClasses last other := by
  induction rearranged generalizing catalogue last with
  | nil => exact ⟨last, added, .refl last⟩
  | cons item _ inductionHypothesis =>
      rw [List.foldlM_cons] at added
      obtain ⟨next, here, others⟩ := bind_eq_ok.mp added
      obtain ⟨other, there, same⟩ := inductionHypothesis others
      exact ⟨other, by rw [List.foldlM_cons, here]; exact there, same⟩
  | swap later earlier rest =>
      rw [List.foldlM_cons] at added
      obtain ⟨next, here, added⟩ := bind_eq_ok.mp added
      rw [List.foldlM_cons] at added
      obtain ⟨middle, next', others⟩ := bind_eq_ok.mp added
      obtain ⟨other, final, first, second, same⟩ := addItem_swap here next'
      obtain ⟨result, there, sameResult⟩ := foldlM_addItem_congr same others
      refine ⟨result, ?_, sameResult⟩
      rw [List.foldlM_cons, first]
      show List.foldlM addItem other (_ :: rest) = _
      rw [List.foldlM_cons, second]
      exact there
  | trans _ _ firstHypothesis secondHypothesis =>
      obtain ⟨middle, there, sameMiddle⟩ := firstHypothesis added
      obtain ⟨final, further, sameFinal⟩ := secondHypothesis there
      exact ⟨final, further, sameMiddle.trans sameFinal⟩

theorem wellFormed_foldlM_addItem {items : List TableItem} (initial : catalogue.WellFormed)
    (added : items.foldlM addItem catalogue = .ok larger) : larger.WellFormed := by
  refine foldlM_keeps initial ?_ added
  rintro (⟨kind, label, body⟩ | ⟨key, value⟩) - before after wellFormed here
  · exact wellFormed.addClass here
  · cases here

/-- What one sequence of tables loads, the same contents in another order load as well. -/
theorem exists_load_of_perm {registry : Registry P} {first second : List (List (String × Toml))}
    (rearranged : (first.flatMap tableItems).Perm (second.flatMap tableItems)) {set : ClassSet P}
    (loaded : load registry first = .ok set) :
    ∃ other, load registry second = .ok other ∧ ∀ label, set.get? label = other.get? label := by
  obtain ⟨catalogue, read, finished⟩ := bind_eq_ok.mp loaded
  rw [foldlM_readTable_eq_ok] at read
  obtain ⟨other, otherRead, same⟩ := foldlM_addItem_perm rearranged read
  obtain ⟨otherSet, otherFinished, sameClass⟩ := same.finish
    (wellFormed_foldlM_addItem (wellFormed_empty registry) read)
    (wellFormed_foldlM_addItem (wellFormed_empty registry) otherRead) finished
  exact ⟨otherSet, bind_eq_ok.mpr ⟨other, foldlM_readTable_eq_ok.mpr otherRead, otherFinished⟩,
    sameClass⟩

/-- Two sequences of tables with the same contents, in any order and split in any way, both
fail to load, or load sets that give the same description for every label. -/
theorem load_eq_of_perm (registry : Registry P) {first second : List (List (String × Toml))}
    (rearranged : (first.flatMap tableItems).Perm (second.flatMap tableItems)) :
    ((∃ fault, load registry first = .error fault) ∧
        ∃ fault, load registry second = .error fault) ∨
      ∃ set other, load registry first = .ok set ∧ load registry second = .ok other ∧
        ∀ label, set.get? label = other.get? label := by
  cases firstLoad : load registry first with
  | ok set =>
      obtain ⟨other, secondLoad, same⟩ := exists_load_of_perm rearranged firstLoad
      exact .inr ⟨set, other, rfl, secondLoad, same⟩
  | error fault =>
      refine .inl ⟨⟨fault, rfl⟩, ?_⟩
      cases secondLoad : load registry second with
      | error other => exact ⟨other, rfl⟩
      | ok set =>
          obtain ⟨other, loaded, -⟩ := exists_load_of_perm rearranged.symm secondLoad
          rw [firstLoad] at loaded
          cases loaded

/-- A subnet with one proc and one variable. -/
def wrapper (label className target : String) : String × Toml :=
  (label, .table [
    ("network", .table [("procs", .table [("inner", .table [("class", .string className)])])]),
    ("vars", .table [("level", .table [("doc", .string ""), ("proxy", .string target)])])])

/-- A subnet may be declared before the class it wraps, and in another table. -/
theorem load_wrappers_eq :
    let number := Descriptions.number
    let outer := wrapper "outer" "middle" "inner.level"
    let middle := wrapper "middle" "number" "inner.value"
    let first := [[("subnets", .table [outer, middle]), ("classes", .table [number])]]
    let second := [[("classes", .table [number])], [("subnets", .table [middle, outer])]]
    ∃ set other, load Registry.builtin first = .ok set ∧
      load Registry.builtin second = .ok other ∧ ∀ label, set.get? label = other.get? label := by
  intro number outer middle first second
  have rearranged : (first.flatMap tableItems).Perm (second.flatMap tableItems) :=
    (List.reverse_perm _).symm
  obtain ⟨-, fault, failed⟩ | loads := load_eq_of_perm Registry.builtin rearranged
  -- the second order loads: its labels resolve in one round
  · have read : second.foldlM readTable (empty Registry.builtin) = .ok _ := rfl
    have wellFormed :=
      wellFormed_foldlM_addItem (wellFormed_empty _) (foldlM_readTable_eq_ok.mp read)
    have finished : load Registry.builtin second = .ok _ :=
      bind_eq_ok.mpr
        ⟨_, read, wellFormed.finish_eq_ok.mpr ⟨resolveAll_of_resolveRound rfl, rfl⟩⟩
    rw [finished] at failed
    cases failed
  · exact loads

end Catalogue

end SignalNet
