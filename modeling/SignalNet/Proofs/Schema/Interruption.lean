import SignalNet.Proofs.Schema.Bookkeeping
import SignalNet.Proofs.Schema.DeclarationOrder

/-!
Contract: what a table leaves behind that fails on the way.

A table is read class by class. A class is stored once all of it has been read, and what stands
before it in the table is not looked at again, so the catalogue that a failing table leaves is
that of the same table cut off before the class, or before the section, that fails. Nothing
distinguishes the two afterwards.

Owns: the place where a table breaks off (`Catalogue.BreaksOff`), the labels that a table writes
down (`labels_of_addTable`), and the law of interrupted tables (`broken_table_leaves_cut`).
-/

set_option autoImplicit false

namespace SignalNet

variable {P : Type}

/-- The fault of a section of its own: it has no known name, or is no table. -/
def sectionFault? (key : String) (value : Toml) : Option SchemaError :=
  match Catalogue.sectionOf key, value with
  | .error fault, _ => some fault
  | .ok _, .table _ => none
  | .ok _, _ => some (.badSyntax key .sectionNotTable)

/-- The label that a class of a table writes down, with its section. -/
def TableItem.label? : TableItem → Option (String × ClassSection)
  | .entry kind label _ => some (label, kind)
  | .other _ _ => none

namespace Catalogue

variable {catalogue after : Catalogue P} {fault : SchemaError}

/-- A table breaks off in a catalogue, and is cut there: before a section with a fault of its own,
or before a class that the catalogue refuses, in which case the section ends with the class before
it. -/
inductive BreaksOff (after : Catalogue P) (fault : SchemaError) :
    List (String × Toml) → List (String × Toml) → Prop where
  | atKey (before : List (String × Toml)) {rest : List (String × Toml)} {key : String}
      {value : Toml} (refused : sectionFault? key value = some fault) :
      BreaksOff after fault (before ++ (key, value) :: rest) before
  | atClass (before entries : List (String × Toml)) {rest others : List (String × Toml)}
      {key label : String} {kind : ClassSection} {body : Toml} (known : sectionOf key = .ok kind)
      (refused : after.addClass kind label body = .error fault) :
      BreaksOff after fault (before ++ (key, .table (entries ++ (label, body) :: others)) :: rest)
        (before ++ [(key, .table entries)])

theorem BreaksOff.cons {sections cut : List (String × Toml)}
    (breaks : BreaksOff after fault sections cut) (item : String × Toml) :
    BreaksOff after fault (item :: sections) (item :: cut) := by
  cases breaks with
  | atKey _ refused => exact .atKey (item :: cut) refused
  | atClass before entries known refused => exact .atClass (item :: before) entries known refused

/-! ## Sections -/

theorem addSection_append {kind : ClassSection} {first second : List (String × Toml)}
    (done : addSection kind catalogue first = (after, .ok ())) :
    addSection kind catalogue (first ++ second) = addSection kind after second := by
  induction first generalizing catalogue with
  | nil =>
      cases done
      rfl
  | cons entry rest inductionHypothesis =>
      obtain ⟨label, body⟩ := entry
      rw [addSection] at done
      rw [List.cons_append, addSection]
      cases added : catalogue.addClass kind label body with
      | error refused =>
          rw [added] at done
          cases done
      | ok larger =>
          rw [added] at done
          exact inductionHypothesis done

/-- A section fails at a class: those before it are added, and it is refused. -/
theorem addSection_eq_error {kind : ClassSection} {entries : List (String × Toml)} :
    addSection kind catalogue entries = (after, .error fault) ↔
      ∃ done label body others, entries = done ++ (label, body) :: others ∧
        addSection kind catalogue done = (after, .ok ()) ∧
          after.addClass kind label body = .error fault := by
  constructor
  · intro failed
    induction entries generalizing catalogue with
    | nil => cases failed
    | cons entry rest inductionHypothesis =>
        obtain ⟨label, body⟩ := entry
        rw [addSection] at failed
        cases added : catalogue.addClass kind label body with
        | error refused =>
            rw [added] at failed
            cases failed
            exact ⟨[], label, body, rest, rfl, rfl, added⟩
        | ok larger =>
            rw [added] at failed
            obtain ⟨done, later, value, others, rfl, reached, refused⟩ :=
              inductionHypothesis failed
            refine ⟨(label, body) :: done, later, value, others, rfl, ?_, refused⟩
            rw [addSection, added]
            exact reached
  · rintro ⟨done, label, body, others, rfl, reached, refused⟩
    rw [addSection_append reached, addSection, refused]

/-! ## Tables -/

theorem addTable_append_eq_ok {first second : List (String × Toml)} :
    catalogue.addTable (first ++ second) = (after, .ok ()) ↔
      ∃ middle, catalogue.addTable first = (middle, .ok ()) ∧
        middle.addTable second = (after, .ok ()) := by
  simp only [← readTable_eq_ok_iff, readTable_eq_ok, tableItems, List.flatMap_append,
    List.foldlM_append, bind_eq_ok]

theorem addTable_append {first second : List (String × Toml)}
    (done : catalogue.addTable first = (after, .ok ())) :
    catalogue.addTable (first ++ second) = after.addTable second := by
  induction first generalizing catalogue with
  | nil =>
      cases done
      rfl
  | cons entry rest inductionHypothesis =>
      obtain ⟨key, value⟩ := entry
      obtain ⟨next, ⟨kind, entries, known, rfl, added⟩, later⟩ := addTable_cons_eq_ok.mp done
      rw [List.cons_append, addTable.eq_def]
      simp only [known, added]
      exact inductionHypothesis later

theorem sectionFault?_eq_none {key : String} {value : Toml} :
    sectionFault? key value = none ↔
      ∃ kind entries, sectionOf key = .ok kind ∧ value = .table entries := by
  unfold sectionFault?
  cases sectionOf key with
  | error refused => simp
  | ok kind => cases value <;> simp

theorem addTable_of_sectionFault? {key : String} {value : Toml} {rest : List (String × Toml)}
    (refused : sectionFault? key value = some fault) :
    catalogue.addTable ((key, value) :: rest) = (catalogue, .error fault) := by
  unfold sectionFault? at refused
  rw [addTable.eq_def]
  cases known : sectionOf key with
  | error other =>
      simp only [known, Option.some.injEq] at refused ⊢
      rw [refused]
  | ok kind =>
      cases value with
      | table entries => simp [known] at refused
      | boolean | integer | float | string | datetime | array =>
          simp only [known, Option.some.injEq] at refused ⊢
          rw [refused]

/-- A table fails where it breaks off: what stands before is added, and what stands there is
refused. -/
theorem addTable_eq_error {sections : List (String × Toml)} :
    catalogue.addTable sections = (after, .error fault) ↔
      ∃ cut, BreaksOff after fault sections cut ∧ catalogue.addTable cut = (after, .ok ()) := by
  constructor
  · intro failed
    induction sections generalizing catalogue with
    | nil => cases failed
    | cons entry rest inductionHypothesis =>
        obtain ⟨key, value⟩ := entry
        cases broken : sectionFault? key value with
        | some refused =>
            rw [addTable_of_sectionFault? broken] at failed
            cases failed
            exact ⟨[], .atKey [] broken, rfl⟩
        | none =>
            obtain ⟨kind, entries, known, rfl⟩ := sectionFault?_eq_none.mp broken
            rw [addTable.eq_def] at failed
            simp only [known] at failed
            cases added : addSection kind catalogue entries with
            | mk next outcome =>
                rw [added] at failed
                cases outcome with
                | ok done =>
                    obtain ⟨cut, breaks, reached⟩ := inductionHypothesis failed
                    exact ⟨(key, .table entries) :: cut, breaks.cons _,
                      addTable_cons_eq_ok.mpr ⟨next, ⟨kind, entries, known, rfl, added⟩, reached⟩⟩
                | error refused =>
                    cases failed
                    obtain ⟨done, label, body, others, rfl, reached, refused⟩ :=
                      addSection_eq_error.mp added
                    refine ⟨[(key, .table done)], .atClass [] done known refused, ?_⟩
                    exact addTable_cons_eq_ok.mpr ⟨_, ⟨kind, done, known, rfl, reached⟩, rfl⟩
  · rintro ⟨cut, breaks, reached⟩
    cases breaks with
    | atKey _ refused =>
        rw [addTable_append reached]
        exact addTable_of_sectionFault? refused
    | atClass earlier classes known refused =>
        obtain ⟨middle, before, last⟩ := addTable_append_eq_ok.mp reached
        obtain ⟨next, ⟨kind, entries, alsoKnown, same, added⟩, ended⟩ := addTable_cons_eq_ok.mp last
        cases ended
        cases same
        cases known.symm.trans alsoKnown
        rw [addTable_append before, addTable.eq_def]
        simp only [known, addSection_append added, addSection, refused]

/-! ## Labels -/

theorem labels_of_addItem {item : TableItem} (added : catalogue.addItem item = .ok after) :
    after.labels = catalogue.labels ++ item.label?.toList := by
  cases item with
  | other key value => cases added
  | entry kind label body =>
      obtain ⟨-, -, description, read, rfl⟩ := addClass_eq_ok.mp added
      rw [← (readClass_spec read).1]
      cases kind <;> rfl

theorem labels_of_foldlM_addItem {items : List TableItem}
    (added : items.foldlM addItem catalogue = .ok after) :
    after.labels = catalogue.labels ++ items.filterMap (·.label?) := by
  induction items generalizing catalogue with
  | nil =>
      cases added
      rw [List.filterMap_nil, List.append_nil]
  | cons item rest inductionHypothesis =>
      rw [List.foldlM_cons] at added
      obtain ⟨next, here, later⟩ := bind_eq_ok.mp added
      rw [inductionHypothesis later, labels_of_addItem here, List.append_assoc]
      cases labelled : item.label? with
      | none =>
          rw [List.filterMap_cons_none labelled]
          rfl
      | some label =>
          rw [List.filterMap_cons_some labelled]
          rfl

/-- A table that is read to the end writes down the labels of its classes, in order, and no
others. -/
theorem labels_of_addTable {sections : List (String × Toml)}
    (added : catalogue.addTable sections = (after, .ok ())) :
    after.labels = catalogue.labels ++ (tableItems sections).filterMap (·.label?) :=
  labels_of_foldlM_addItem (readTable_eq_ok.mp (readTable_eq_ok_iff.mpr added))

end Catalogue

/-- Whatever a catalogue held before: a table fails in it exactly if it breaks off at one of its
sections or classes, and the catalogue is then that of the table cut off before it, which is read
to the end. What is written down are the labels of the classes before the cut, so the class that
failed is not among them, and with whatever sources the loading goes on, it goes on as after the
cut table. -/
theorem broken_table_leaves_cut (catalogue after : Catalogue P) (sections : List (String × Toml))
    (fault : SchemaError) :
    (catalogue.addTable sections = (after, .error fault) ↔
        ∃ cut, Catalogue.BreaksOff after fault sections cut ∧
          catalogue.addTable cut = (after, .ok ())) ∧
      ∀ cut, Catalogue.BreaksOff after fault sections cut →
        catalogue.addTable cut = (after, .ok ()) →
          after.labels = catalogue.labels ++ (tableItems cut).filterMap (·.label?) ∧
            ∀ source : Source, source.tables = [sections] → ∀ further,
              catalogue.addSources (source :: further) =
                catalogue.addSources (.table cut :: further) := by
  refine ⟨Catalogue.addTable_eq_error, fun cut breaks reached =>
    ⟨Catalogue.labels_of_addTable reached, fun source isTable further => ?_⟩⟩
  have failed := Catalogue.addTable_eq_error.mpr ⟨cut, breaks, reached⟩
  have sameLeft : catalogue.addSource source = catalogue.addSource (.table cut) := by
    rw [Catalogue.addSource_eq_addTables, isTable]
    show (catalogue.addTable sections).1 = (catalogue.addTable cut).1
    rw [failed, reached]
  rw [Catalogue.addSources, List.foldl_cons, sameLeft]
  rfl

namespace Halves

/-- The beginning of a description, with one class. -/
def good : List (String × Toml) := [("classes", .table [Descriptions.number])]

/-- A description with the same beginning; the second variable of its second class has no type. -/
def broken : List (String × Toml) :=
  [("classes", .table (Descriptions.number ::
    ("counter", .table [("vars", .table [
      Descriptions.described "inc" "double" "" [],
      ("limit", .table [("doc", .string "")])])]) ::
    [Descriptions.sineTone])), ("subnets", .table [])]

/-- The second class once more, as it should be. -/
def again : List (String × Toml) := [("classes", .table [Descriptions.counter])]

end Halves

/-- The class with the bad variable leaves nothing behind, and its label is free for the next
source. -/
theorem halves_leave_good :
    let before := Catalogue.empty Registry.builtin
    let after := (before.addTable Halves.good).1
    before.addTable Halves.broken = (after, .error (.missingType "counter" "limit")) ∧
      after.labels = [("number", .plain)] ∧
      before.addSources [.table Halves.broken, .table Halves.again] =
        before.addSources [.table Halves.good, .table Halves.again] ∧
      (before.addSources [.table Halves.broken, .table Halves.again]).section? "counter" =
        some .plain := by
  intro before after
  obtain ⟨fails, leaves⟩ := broken_table_leaves_cut before after Halves.broken
    (.missingType "counter" "limit")
  have breaks : Catalogue.BreaksOff after (.missingType "counter" "limit") Halves.broken
      Halves.good :=
    .atClass [] [Descriptions.number] rfl rfl
  have reached : before.addTable Halves.good = (after, .ok ()) := rfl
  obtain ⟨labels, sameAfter⟩ := leaves Halves.good breaks reached
  refine ⟨fails.mpr ⟨_, breaks, reached⟩, labels, sameAfter (.table Halves.broken) rfl _, ?_⟩
  rw [sameAfter (.table Halves.broken) rfl]
  rfl

end SignalNet
