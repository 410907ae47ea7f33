import SignalNet.Flow.Basic
import SignalNet.Native.Descriptions
import SignalNet.Proofs.Schema.Circularity
import SignalNet.Proofs.Schema.Declarations

/-!
Contract: the books of a catalogue are right whatever it was given.

A catalogue writes down a label when it stores the class, and never otherwise, so a source that
fails on the way leaves the books in step with the classes. What the books promise is what
finishing relies on: it meets no label twice, no class without an implementation and no variable
without a target, and what can still go wrong is about the classes that variables and networks
refer to.

Owns: sources (`Source`), the books (`Catalogue.Booked`), and the law about them
(`books_kept_over_sources`).
-/

set_option autoImplicit false

namespace SignalNet

variable {P : Type}

/-! ## Sources -/

/-- What classes are read from. -/
inductive Source where
  | text (written : String)
  | table (sections : List (String × Toml))

/-- The table of a source, unless it is a text that cannot be read as one. -/
def Source.tables : Source → List (List (String × Toml))
  | .text written => (Toml.parse? written).toList
  | .table sections => [sections]

namespace Catalogue

/-- The catalogue that a source leaves behind, whether it fails or not. -/
def addSource (catalogue : Catalogue P) : Source → Catalogue P
  | .text written => (catalogue.addText written).1
  | .table sections => (catalogue.addTable sections).1

def addSources (catalogue : Catalogue P) (sources : List Source) : Catalogue P :=
  sources.foldl addSource catalogue

theorem addSource_eq_addTables (catalogue : Catalogue P) (source : Source) :
    catalogue.addSource source = catalogue.addTables source.tables := by
  cases source with
  | table sections => rfl
  | text written =>
      rw [addSource, addText, Source.tables]
      cases Toml.parse? written with
      | none => rfl
      | some sections => rfl

theorem addSources_eq_addTables (catalogue : Catalogue P) (sources : List Source) :
    catalogue.addSources sources = catalogue.addTables (sources.flatMap (·.tables)) := by
  induction sources generalizing catalogue with
  | nil => rfl
  | cons source rest inductionHypothesis =>
      rw [addSources, List.foldl_cons, addSource_eq_addTables, List.flatMap_cons, addTables_append]
      exact inductionHypothesis _

/-! ## Books -/

/-- The classes that were stored for a section. -/
def stored (catalogue : Catalogue P) : ClassSection → List (ClassDescription P)
  | .plain => catalogue.plain
  | .subnet => catalogue.subnets

/-- The labels that are written down are those of the stored classes, each once and with its
section; none is reserved. Plain classes have the implementation that the registry has under their
label, and the variables of subnets say what they stand for. -/
structure Booked (registry : Registry P) (catalogue : Catalogue P) : Prop where
  entries : catalogue.labels.Perm catalogue.taken
  keys : (catalogue.labels.map (·.1)).Nodup
  sections : ∀ label kind, catalogue.section? label = some kind ↔
    ∃ description ∈ catalogue.stored kind, description.label = label
  distinct : ((catalogue.plain ++ catalogue.subnets).map (·.label)).Nodup
  unreserved : ∀ kind, ∀ description ∈ catalogue.stored kind,
    description.label ≠ Registry.subnetLabel
  registered : ∀ description ∈ catalogue.plain,
    ∃ native, registry.get? description.label = some native ∧ description.kind = .plain native
  targeted : ∀ description ∈ catalogue.subnets, ∀ declaration ∈ description.vars,
    declaration.target.isSome = true

theorem mem_taken {catalogue : Catalogue P} {label : String} {kind : ClassSection} :
    (label, kind) ∈ catalogue.taken ↔
      ∃ description ∈ catalogue.stored kind, description.label = label := by
  rw [taken, List.mem_append, List.mem_map, List.mem_map]
  cases kind with
  | plain => simp [stored]
  | subnet => simp [stored]

theorem taken_map_fst (catalogue : Catalogue P) :
    catalogue.taken.map (·.1) = (catalogue.plain ++ catalogue.subnets).map (·.label) := by
  rw [taken, List.map_append, List.map_append, List.map_map, List.map_map]
  rfl

theorem unreserved_addTables (registry : Registry P) (tables : List (List (String × Toml))) :
    ((empty registry).addTables tables).Each fun _ description =>
      description.label ≠ Registry.subnetLabel := by
  refine addTables_keeps (motive := Each _) ?_ ⟨List.forall_mem_nil _, List.forall_mem_nil _⟩
  intro before kind label value after _ each added
  obtain ⟨unreserved, -, description, read, rfl⟩ := addClass_eq_ok.mp added
  exact each.store ((readClass_spec read).1 ▸ unreserved)

theorem booked_addTables (registry : Registry P) (tables : List (List (String × Toml))) :
    ((empty registry).addTables tables).Booked registry := by
  obtain ⟨wellFormed, sameRegistry⟩ := wellFormed_addTables registry tables
  have unreserved := unreserved_addTables registry tables
  have declared := declared_addTables registry tables
  refine ⟨wellFormed.labels_perm, wellFormed.labels_nodup,
    fun label kind => wellFormed.section?_eq_some.trans mem_taken, ?_, ?_, ?_, ?_⟩
  · rw [← taken_map_fst]
    exact (wellFormed.labels_perm.map _).nodup_iff.mp wellFormed.labels_nodup
  · intro kind
    cases kind with
    | plain => exact unreserved.1
    | subnet => exact unreserved.2
  · intro description member
    obtain ⟨native, registered, isPlain, -⟩ := wellFormed.plainBacked description member
    exact ⟨native, sameRegistry ▸ registered, isPlain⟩
  · exact fun description member declaration listed =>
      (declared.2 description member declaration listed).1

end Catalogue

/-! ## Faults that the books rule out -/

/-- A fault that could only come from books that are out of step with the classes. -/
inductive SchemaError.OutOfStep : SchemaError → Prop where
  | duplicateClass (label : String) : OutOfStep (.duplicateClass label)
  | duplicateSubnet (label : String) : OutOfStep (.duplicateSubnet label)
  | reservedLabel (label : String) : OutOfStep (.reservedLabel label)
  | unknownClass (label : String) : OutOfStep (.unknownClass label)
  | missingTarget (className var : String) : OutOfStep (.missingTarget className var)

/-- Whatever texts and tables a catalogue was given, those included that were refused midway, its
books are right, so finishing it never fails for a label that is taken or reserved, for a class
without an implementation, or for a variable that says not what it stands for. -/
theorem books_kept_over_sources (registry : Registry P) (sources : List Source) :
    let catalogue := (Catalogue.empty registry).addSources sources
    catalogue.Booked registry ∧
      ∀ fault : SchemaError, fault.OutOfStep → catalogue.finish ≠ .error fault := by
  intro catalogue
  have isTables : catalogue = (Catalogue.empty registry).addTables (sources.flatMap (·.tables)) :=
    Catalogue.addSources_eq_addTables _ sources
  rw [isTables]
  obtain ⟨wellFormed, -⟩ := Catalogue.wellFormed_addTables registry (sources.flatMap (·.tables))
  have declared := (Catalogue.declared_addTables registry (sources.flatMap (·.tables))).2
  refine ⟨Catalogue.booked_addTables registry _, fun fault outOfStep failed => ?_⟩
  rcases wellFormed.error_of_finish declared failed with
    ⟨_, _, _, _, rfl⟩ | ⟨⟨_, rfl⟩, -⟩ | ⟨_, _, rfl, -⟩ <;> cases outOfStep

namespace Misfits

/-- A text that is no table, a class, the same class again, a subnet with its label, a subnet
without a network, and one with the reserved label. -/
def sources : List Source :=
  [.text "][", .table [("classes", .table [Descriptions.number])],
    .table [("classes", .table [Descriptions.number])],
    .table [("subnets", .table [("number", .table [])])],
    .table [("subnets", .table [("hollow", .table [])])],
    .table [("subnets", .table [(Registry.subnetLabel, .table [])])]]

end Misfits

/-- Of the misfits only the class is written down, and the catalogue can be finished. -/
theorem misfits_leave_books :
    let catalogue := (Catalogue.empty Registry.builtin).addSources Misfits.sources
    catalogue.labels = [("number", .plain)] ∧ catalogue.Booked Registry.builtin ∧
      catalogue.finish ≠ .error (.duplicateClass "number") := by
  obtain ⟨booked, noFault⟩ := books_kept_over_sources Registry.builtin Misfits.sources
  exact ⟨rfl, booked, noFault _ (.duplicateClass "number")⟩

end SignalNet
