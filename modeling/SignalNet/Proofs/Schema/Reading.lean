import Mathlib.Data.List.Nodup
import SignalNet.Proofs.Outcome
import SignalNet.Schema.Resolution

/-!
Contract: what a catalogue holds, whatever was read into it.

Every class that a catalogue took in is backed by what its section asks for, and no
label is taken twice. Tables that fail add what they had read, so the same holds after
any sequence of them.

Owns: the reading of one class (`readClass_spec`), the invariant
(`Catalogue.WellFormed`), and its preservation by single classes, sections and tables.
-/

set_option autoImplicit false

namespace SignalNet

variable {P : Type}

/-! ## Variables -/

/-- What reading promises about a variable. One of a plain class is typed, stands for no
other one and is no output of a subnet; one of a subnet stands for an inner variable, from
which it has not inherited anything yet. -/
def Declaration.AsRead : ClassSection → Declaration → Prop
  | .plain, declaration => declaration.declared.isSome = true ∧ declaration.target = none ∧
      declaration.has .out = false
  | .subnet, declaration => declaration.target.isSome = true ∧ declaration.inherited = false

theorem Declaration.ofPlain_spec {className var context : String} {entry : VariableEntry}
    {declaration : Declaration}
    (read : Declaration.ofPlain className var context entry = .ok declaration) :
    declaration.AsRead .plain ∧ declaration.label = var := by
  unfold Declaration.ofPlain at read
  cases doc : entry.doc with
  | none =>
      rw [doc] at read
      cases read
  | some text =>
      cases label : entry.type with
      | none =>
          simp only [doc, label] at read
          cases read
      | some written =>
          simp only [doc, label] at read
          obtain ⟨type, -, read⟩ := bind_eq_ok.mp read
          obtain ⟨flags, -, read⟩ := bind_eq_ok.mp read
          obtain ⟨initial, -, read⟩ := bind_eq_ok.mp read
          cases read
          refine ⟨⟨rfl, rfl, ?_⟩, rfl⟩
          rw [Declaration.has, FlagSet.has_difference, FlagSet.has_single_self, Bool.not_true,
            Bool.and_false]

theorem Declaration.ofSubnet_spec {className var context : String} {entry : VariableEntry}
    {declaration : Declaration}
    (read : Declaration.ofSubnet className var context entry = .ok declaration) :
    declaration.AsRead .subnet ∧ declaration.label = var := by
  unfold Declaration.ofSubnet at read
  cases doc : entry.doc with
  | none =>
      rw [doc] at read
      cases read
  | some text =>
      cases written : entry.target with
      | none =>
          simp only [doc, written] at read
          cases read
      | some reference =>
          simp only [doc, written] at read
          obtain ⟨target, -, read⟩ := bind_eq_ok.mp read
          have completed : ∀ {rest : Except SchemaError Declaration}, rest = .ok declaration →
              (rest = do
                let flags ← FlagSet.ofTokens className var entry.flags
                let initial ← entry.initial context
                return ⟨var, text, none, flags, initial, false, some target⟩) →
              declaration.AsRead .subnet ∧ declaration.label = var := by
            rintro rest read rfl
            obtain ⟨flags, -, read⟩ := bind_eq_ok.mp read
            obtain ⟨initial, -, read⟩ := bind_eq_ok.mp read
            cases read
            exact ⟨⟨rfl, rfl⟩, rfl⟩
          cases label : entry.type with
          | none =>
              simp only [label] at read
              exact completed read rfl
          | some type =>
              simp only [label] at read
              obtain ⟨known, -, read⟩ := bind_eq_ok.mp read
              exact completed read rfl

theorem Declaration.ofToml_spec {kind : ClassSection} {className context var : String}
    {value : Toml} {declaration : Declaration}
    (read : Declaration.ofToml kind className context var value = .ok declaration) :
    declaration.AsRead kind ∧ declaration.label = var := by
  unfold Declaration.ofToml at read
  obtain ⟨entry, -, read⟩ := bind_eq_ok.mp read
  cases kind with
  | plain => exact Declaration.ofPlain_spec read
  | subnet => exact Declaration.ofSubnet_spec read

namespace Catalogue

/-! ## One class -/

/-- What a section asks of a class. -/
def Backed (registry : Registry P) : ClassSection → ClassDescription P → Prop
  | .plain, description => ∃ native, registry.get? description.label = some native ∧
      description.kind = .plain native ∧
        ∀ declaration ∈ description.vars, declaration.declared.isSome = true
  | .subnet, description => ∃ template, description.kind = .subnet template

theorem readKind_spec {catalogue : Catalogue P} {kind : ClassSection} {context label : String}
    {network : Option (List (String × Toml))} {body : ClassKind P}
    (read : catalogue.readKind kind context label network = .ok body) :
    match kind with
    | .plain => ∃ native, catalogue.registry.get? label = some native ∧ body = .plain native
    | .subnet => ∃ template, body = .subnet template := by
  cases kind with
  | plain =>
      cases network with
      | some entries => cases read
      | none =>
          simp only [readKind] at read
          cases found : catalogue.registry.get? label with
          | none =>
              rw [found] at read
              cases read
          | some native =>
              rw [found] at read
              cases read
              exact ⟨native, rfl, rfl⟩
  | subnet =>
      cases network with
      | none => cases read
      | some entries =>
          obtain ⟨template, -, rfl⟩ := map_eq_ok.mp read
          exact ⟨template, rfl⟩

theorem readClass_spec {catalogue : Catalogue P} {kind : ClassSection} {label : String}
    {value : Toml} {description : ClassDescription P}
    (read : catalogue.readClass kind label value = .ok description) :
    description.label = label ∧ Backed catalogue.registry kind description := by
  unfold readClass at read
  obtain ⟨entry, -, read⟩ := bind_eq_ok.mp read
  obtain ⟨body, bodyRead, read⟩ := bind_eq_ok.mp read
  obtain ⟨vars, varsRead, read⟩ := bind_eq_ok.mp read
  obtain ⟨presets, -, read⟩ := bind_eq_ok.mp read
  cases read
  refine ⟨rfl, ?_⟩
  have backed := readKind_spec bodyRead
  cases kind with
  | subnet => exact backed
  | plain =>
      obtain ⟨native, found, rfl⟩ := backed
      refine ⟨native, found, rfl, fun declaration member => ?_⟩
      obtain ⟨source, -, result⟩ := exists_of_mem_mapM varsRead member
      exact (Declaration.ofToml_spec result).1.1

/-! ## All classes -/

/-- The labels that the classes of a catalogue take, with their sections. -/
def taken (catalogue : Catalogue P) : List (String × ClassSection) :=
  catalogue.plain.map (fun description => (description.label, .plain)) ++
    catalogue.subnets.map (fun description => (description.label, .subnet))

/-- What holds of every catalogue that was filled by reading. -/
structure WellFormed (catalogue : Catalogue P) : Prop where
  plainBacked : ∀ description ∈ catalogue.plain,
    Backed catalogue.registry .plain description
  subnetBacked : ∀ description ∈ catalogue.subnets,
    Backed catalogue.registry .subnet description
  labels_perm : catalogue.labels.Perm catalogue.taken
  labels_nodup : (catalogue.labels.map (·.1)).Nodup

theorem wellFormed_empty (registry : Registry P) : (empty registry).WellFormed where
  plainBacked _ member := absurd member List.not_mem_nil
  subnetBacked _ member := absurd member List.not_mem_nil
  labels_perm := List.Perm.refl _
  labels_nodup := List.nodup_nil

theorem section?_eq_none {catalogue : Catalogue P} {label : String} :
    catalogue.section? label = none ↔ label ∉ catalogue.labels.map (·.1) := by
  rw [section?, Option.map_eq_none_iff, List.find?_eq_none, List.mem_map]
  constructor
  · rintro absent ⟨entry, member, rfl⟩
    exact absent entry member (by simp)
  · intro absent entry member same
    exact absent ⟨entry, member, by simpa using same⟩

theorem WellFormed.section?_eq_some {catalogue : Catalogue P} (wellFormed : catalogue.WellFormed)
    {label : String} {kind : ClassSection} :
    catalogue.section? label = some kind ↔ (label, kind) ∈ catalogue.taken := by
  rw [← wellFormed.labels_perm.mem_iff, section?, Option.map_eq_some_iff]
  constructor
  · rintro ⟨entry, found, rfl⟩
    have same : entry.1 = label := by simpa using List.find?_some found
    rw [← same]
    exact List.mem_of_find?_eq_some found
  · intro member
    cases found : catalogue.labels.find? (·.1 == label) with
    | none =>
        have absent := List.find?_eq_none.mp found (label, kind) member
        simp at absent
    | some entry =>
        have sameLabel : entry.1 = label := by simpa using List.find?_some found
        have same := List.inj_on_of_nodup_map wellFormed.labels_nodup
          (List.mem_of_find?_eq_some found) member sameLabel
        exact ⟨entry, rfl, by rw [same]⟩

theorem WellFormed.store {catalogue : Catalogue P} (wellFormed : catalogue.WellFormed)
    {kind : ClassSection} {description : ClassDescription P}
    (backed : Backed catalogue.registry kind description)
    (free : catalogue.section? description.label = none) :
    (catalogue.store kind description).WellFormed := by
  have fresh := section?_eq_none.mp free
  have labels_nodup :
      ((catalogue.labels ++ [(description.label, kind)]).map (·.1)).Nodup := by
    rw [List.map_append, List.nodup_append]
    refine ⟨wellFormed.labels_nodup, List.nodup_singleton _, ?_⟩
    intro label member other isNew same
    rw [same, List.mem_singleton.mp isNew] at member
    exact fresh member
  cases kind with
  | plain =>
      refine ⟨?_, wellFormed.subnetBacked, ?_, labels_nodup⟩
      · intro other member
        rcases List.mem_append.mp member with old | new
        · exact wellFormed.plainBacked other old
        · rw [List.mem_singleton.mp new]
          exact backed
      · apply (wellFormed.labels_perm.append_right _).trans
        simp only [taken, Catalogue.store, List.map_append, List.map_cons, List.map_nil,
          List.append_assoc]
        exact List.perm_append_comm.append_left _
  | subnet =>
      refine ⟨wellFormed.plainBacked, ?_, ?_, labels_nodup⟩
      · intro other member
        rcases List.mem_append.mp member with old | new
        · exact wellFormed.subnetBacked other old
        · rw [List.mem_singleton.mp new]
          exact backed
      · apply (wellFormed.labels_perm.append_right _).trans
        simp only [taken, Catalogue.store, List.map_append, List.map_cons, List.map_nil,
          List.append_assoc]
        exact List.Perm.refl _

theorem addClass_eq_ok {catalogue larger : Catalogue P} {kind : ClassSection} {label : String}
    {value : Toml} :
    catalogue.addClass kind label value = .ok larger ↔
      label ≠ Registry.subnetLabel ∧ catalogue.section? label = none ∧
        ∃ description, catalogue.readClass kind label value = .ok description ∧
          larger = catalogue.store kind description := by
  unfold addClass
  by_cases reserved : label = Registry.subnetLabel
  · simp [reserved]
  · rw [if_neg reserved]
    cases free : catalogue.section? label with
    | some kind => simp
    | none =>
        simp only [map_eq_ok, ne_eq, reserved, not_false_eq_true, true_and]
        constructor
        · rintro ⟨description, read, rfl⟩
          exact ⟨description, read, rfl⟩
        · rintro ⟨description, read, rfl⟩
          exact ⟨description, read, rfl⟩

theorem WellFormed.addClass {catalogue larger : Catalogue P} (wellFormed : catalogue.WellFormed)
    {kind : ClassSection} {label : String} {value : Toml}
    (added : catalogue.addClass kind label value = .ok larger) : larger.WellFormed := by
  obtain ⟨-, free, description, read, rfl⟩ := addClass_eq_ok.mp added
  obtain ⟨sameLabel, backed⟩ := readClass_spec read
  exact wellFormed.store backed (sameLabel ▸ free)

/-- A table describes a class: one of its sections has an entry for it. -/
def Describes (sections : List (String × Toml)) (label : String) (value : Toml) : Prop :=
  ∃ key entries, (key, .table entries) ∈ sections ∧ (label, value) ∈ entries

/-- What adding a class keeps is kept by a section, whether it fails or not. -/
theorem addSection_keeps {motive : Catalogue P → Prop} {kind : ClassSection}
    {entries : List (String × Toml)}
    (step : ∀ before label value after, (label, value) ∈ entries → motive before →
      before.addClass kind label value = .ok after → motive after)
    {catalogue : Catalogue P} (initial : motive catalogue) :
    motive (addSection kind catalogue entries).1 := by
  induction entries generalizing catalogue with
  | nil => exact initial
  | cons entry rest inductionHypothesis =>
      rw [addSection]
      split
      · exact initial
      · rename_i larger added
        exact inductionHypothesis
          (fun before label value after member =>
            step before label value after (List.mem_cons_of_mem _ member))
          (step _ _ _ _ List.mem_cons_self initial added)

theorem addTable_keeps {motive : Catalogue P → Prop} {sections : List (String × Toml)}
    (step : ∀ before kind label value after, Describes sections label value → motive before →
      before.addClass kind label value = .ok after → motive after)
    {catalogue : Catalogue P} (initial : motive catalogue) :
    motive (catalogue.addTable sections).1 := by
  induction sections generalizing catalogue with
  | nil => exact initial
  | cons entry rest inductionHypothesis =>
      obtain ⟨key, value⟩ := entry
      unfold addTable
      split
      · exact initial
      · rename_i kind entries _
        have here : ∀ before label value after, (label, value) ∈ entries → motive before →
            before.addClass kind label value = .ok after → motive after :=
          fun before label value after member =>
            step before kind label value after ⟨key, entries, List.mem_cons_self, member⟩
        have later : ∀ before kind label value after, Describes rest label value →
            motive before → before.addClass kind label value = .ok after → motive after := by
          rintro before kind label value after ⟨key, entries, listed, member⟩
          exact step before kind label value after
            ⟨key, entries, List.mem_cons_of_mem _ listed, member⟩
        have kept := addSection_keeps here initial
        split <;> rename_i result <;> rw [result] at kept
        · exact inductionHypothesis later kept
        · exact kept
      · exact initial

/-- The catalogue after some tables, those included that fail midway. -/
def addTables (catalogue : Catalogue P) (tables : List (List (String × Toml))) : Catalogue P :=
  tables.foldl (fun catalogue table => (catalogue.addTable table).1) catalogue

theorem addTables_append (catalogue : Catalogue P) (first second : List (List (String × Toml))) :
    catalogue.addTables (first ++ second) = (catalogue.addTables first).addTables second :=
  List.foldl_append

theorem addTables_keeps {motive : Catalogue P → Prop} {tables : List (List (String × Toml))}
    (step : ∀ before kind label value after, (∃ table ∈ tables, Describes table label value) →
      motive before → before.addClass kind label value = .ok after → motive after)
    {catalogue : Catalogue P} (initial : motive catalogue) :
    motive (catalogue.addTables tables) := by
  induction tables generalizing catalogue with
  | nil => exact initial
  | cons table rest inductionHypothesis =>
      refine inductionHypothesis ?_ (addTable_keeps ?_ initial)
      · rintro before kind label value after ⟨other, member, described⟩
        exact step before kind label value after
          ⟨other, List.mem_cons_of_mem _ member, described⟩
      · intro before kind label value after described
        exact step before kind label value after ⟨table, List.mem_cons_self, described⟩

/-- Every catalogue that tables lead to is well formed, over the same registry. -/
theorem wellFormed_addTables (registry : Registry P) (tables : List (List (String × Toml))) :
    ((empty registry).addTables tables).WellFormed ∧
      ((empty registry).addTables tables).registry = registry := by
  refine addTables_keeps (motive := fun catalogue =>
    catalogue.WellFormed ∧ catalogue.registry = registry) ?_ ⟨wellFormed_empty registry, rfl⟩
  rintro before kind label value after - ⟨wellFormed, same⟩ added
  refine ⟨wellFormed.addClass added, ?_⟩
  obtain ⟨-, -, description, -, rfl⟩ := addClass_eq_ok.mp added
  cases kind <;> exact same

end Catalogue

end SignalNet
