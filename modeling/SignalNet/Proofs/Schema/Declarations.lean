import SignalNet.Proofs.Schema.Entries
import SignalNet.Proofs.Schema.Reading

/-!
Contract: the variables of the classes in a catalogue, as they were read.

What is true of every class when it is read is true of every class that a catalogue
holds, since nothing changes a class afterwards. That a class has no two variables with
one label is not checked anywhere: it follows from the tables, whose keys are distinct.

Owns: properties of all classes (`Catalogue.Each`), and the reading of variables
(`declared_addTables`, `nodup_labels_addTables`).
-/

set_option autoImplicit false

namespace SignalNet

/-! ## Entries -/

/-- The variables of an entry come from one table. -/
theorem ClassEntry.nodup_keys_of_read {value : Toml} {entry : ClassEntry}
    (distinct : value.Distinct) (read : ClassEntry.read value = .ok entry) :
    (entry.vars.map (·.1)).Nodup := by
  obtain ⟨fields, isTable, folded⟩ := (Entry.readFields_eq_ok rfl).mp read
  have fieldsDistinct : (Toml.table fields).Distinct := isTable ▸ distinct.plain.tabled (by decide)
  refine foldlM_keeps (motive := fun entry => (entry.vars.map (·.1)).Nodup) List.nodup_nil ?_ folded
  rintro ⟨key, field⟩ member before after nodup accepted
  have fieldDistinct := fieldsDistinct.2.of_mem member
  replace accepted : before.field key field = .ok after := accepted
  unfold ClassEntry.field at accepted
  split at accepted
  · obtain ⟨table, isField, rfl⟩ := map_eq_ok.mp accepted
    cases field with
    | boolean | integer | float | string | datetime | array => cases isField
    | table inner =>
        cases isField
        exact fieldDistinct.1
  · obtain ⟨table, -, rfl⟩ := map_eq_ok.mp accepted
    exact nodup
  · obtain ⟨count, -, rfl⟩ := map_eq_ok.mp accepted
    exact nodup
  · obtain ⟨table, -, rfl⟩ := map_eq_ok.mp accepted
    exact nodup
  · cases accepted

namespace Catalogue

variable {P : Type}

/-! ## All classes -/

/-- All classes of a catalogue have a property, which may depend on their section. -/
def Each (motive : ClassSection → ClassDescription P → Prop) (catalogue : Catalogue P) : Prop :=
  (∀ description ∈ catalogue.plain, motive .plain description) ∧
    ∀ description ∈ catalogue.subnets, motive .subnet description

theorem Each.store {motive : ClassSection → ClassDescription P → Prop} {catalogue : Catalogue P}
    (each : catalogue.Each motive) {kind : ClassSection} {description : ClassDescription P}
    (holds : motive kind description) : (catalogue.store kind description).Each motive := by
  obtain ⟨plain, subnets⟩ := each
  cases kind with
  | plain =>
      refine ⟨fun other member => ?_, subnets⟩
      rcases List.mem_append.mp member with old | new
      · exact plain other old
      · exact List.mem_singleton.mp new ▸ holds
  | subnet =>
      refine ⟨plain, fun other member => ?_⟩
      rcases List.mem_append.mp member with old | new
      · exact subnets other old
      · exact List.mem_singleton.mp new ▸ holds

/-- What holds of a class whenever it is read from one of the tables holds of all classes. -/
theorem each_addTables {motive : ClassSection → ClassDescription P → Prop}
    {tables : List (List (String × Toml))}
    (read : ∀ (catalogue : Catalogue P) kind label value description,
      (∃ table ∈ tables, Describes table label value) →
        catalogue.readClass kind label value = .ok description → motive kind description)
    (registry : Registry P) : ((empty registry).addTables tables).Each motive := by
  refine addTables_keeps (motive := Each motive) ?_
    ⟨List.forall_mem_nil _, List.forall_mem_nil _⟩
  intro before kind label value after described each added
  obtain ⟨-, -, description, isRead, rfl⟩ := addClass_eq_ok.mp added
  exact each.store (read before kind label value description described isRead)

/-! ## Variables -/

/-- The variables of a class are read from the entries of one table, in order. -/
theorem readClass_vars {catalogue : Catalogue P} {kind : ClassSection} {label : String}
    {value : Toml} {description : ClassDescription P}
    (read : catalogue.readClass kind label value = .ok description) :
    ∃ entry, ClassEntry.read value = .ok entry ∧
      List.Forall₂ (fun (source : String × Toml) declaration =>
        declaration.AsRead kind ∧ declaration.label = source.1) entry.vars description.vars := by
  unfold readClass at read
  obtain ⟨entry, entryRead, read⟩ := bind_eq_ok.mp read
  obtain ⟨body, -, read⟩ := bind_eq_ok.mp read
  obtain ⟨vars, varsRead, read⟩ := bind_eq_ok.mp read
  obtain ⟨presets, -, read⟩ := bind_eq_ok.mp read
  cases read
  exact ⟨entry, mapError_eq_ok.mp entryRead,
    (mapM_eq_ok.mp varsRead).imp fun _ _ result => Declaration.ofToml_spec result⟩

theorem declared_addTables (registry : Registry P) (tables : List (List (String × Toml))) :
    ((empty registry).addTables tables).Each fun kind description =>
      ∀ declaration ∈ description.vars, declaration.AsRead kind := by
  refine each_addTables ?_ registry
  intro catalogue kind label value description _ read declaration member
  obtain ⟨entry, -, each⟩ := readClass_vars read
  obtain ⟨source, -, asRead, -⟩ := exists_of_mem_forall₂ each member
  exact asRead

/-- Over tables with distinct keys, no class has two variables with one label. -/
theorem nodup_labels_addTables (registry : Registry P) {tables : List (List (String × Toml))}
    (distinct : ∀ table ∈ tables, (Toml.table table).Distinct) :
    ((empty registry).addTables tables).Each fun _ description =>
      (description.vars.map (·.label)).Nodup := by
  refine each_addTables ?_ registry
  rintro catalogue kind label value description ⟨table, listed, key, entries, inTable, member⟩ read
  obtain ⟨entry, entryRead, each⟩ := readClass_vars read
  have entriesDistinct : (Toml.table entries).Distinct := (distinct table listed).2.of_mem inTable
  have labels : description.vars.map (·.label) = entry.vars.map (·.1) :=
    map_eq_map_iff_forall₂.mpr (each.flip.imp fun _ _ same => same.2)
  rw [labels]
  exact ClassEntry.nodup_keys_of_read (entriesDistinct.2.of_mem member) entryRead

end Catalogue

end SignalNet
