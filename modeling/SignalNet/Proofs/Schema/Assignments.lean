import Mathlib.Data.List.Induction
import SignalNet.Proofs.Outcome
import SignalNet.Proofs.Schema.Grammar
import SignalNet.Schema.Template

/-!
Contract: what the tables of arguments and presets are read as.

A table under distinct keys gives its literals one to one and in order, since an
assignment of a fresh label is put at the end. It is read exactly if each of its values
has a literal form.

Owns: the literal of a value (`Literal.Shows`), the assignments of a table
(`Assignments.Shows`), and traversals of tables in general.
-/

set_option autoImplicit false

namespace SignalNet

/-! ## What literals and assignments show of a table -/

/-- The literal of a scalar. -/
inductive Literal.OfScalar : Toml → Literal → Prop
  | boolean (b : Bool) : OfScalar (.boolean b) (.bool b)
  | integer (n : Int64) : OfScalar (.integer n) (.int n)
  | float (x : Float) : OfScalar (.float x) (.float x)
  | string (text : String) : OfScalar (.string text) (.string text)

/-- The literal of a value. A list gives one scalar for each item, in order. -/
inductive Literal.Shows : Toml → Literal → Prop
  | scalar {value : Toml} {literal : Literal} (of : Literal.OfScalar value literal) :
      Literal.Shows value literal
  | list {items : List Toml} {literals : List Literal}
      (each : List.Forall₂ Literal.OfScalar items literals) :
      Literal.Shows (.array items) (.list literals)

/-- A literal that holds no list inside of a list. -/
def Literal.IsFlat (literal : Literal) : Prop :=
  ∀ items, literal = .list items → ∀ item ∈ items, item.listLength? = none

/-- Assignments show the entries of a table one to one and in order. -/
def Assignments.Shows (body : Assignments) (entries : List (String × Toml)) : Prop :=
  List.Forall₂ (fun entry assigned => assigned.1 = entry.1 ∧ Literal.Shows entry.2 assigned.2)
    entries body.entries

def Assignments.IsFlat (body : Assignments) : Prop := ∀ assigned ∈ body.entries, assigned.2.IsFlat

/-! ## Literals -/

theorem Literal.ofItem?_eq_ok {value : Toml} {literal : Literal} :
    Literal.ofItem? value = .ok literal ↔ Literal.OfScalar value literal := by
  constructor
  · intro read
    cases value <;> cases read <;> constructor
  · rintro (_ | _ | _ | _) <;> rfl

theorem Literal.exists_ofScalar_iff {value : Toml} :
    (∃ literal, Literal.OfScalar value literal) ↔ value.IsScalar := by
  constructor
  · rintro ⟨literal, _ | _ | _ | _⟩ <;> trivial
  · intro scalar
    cases value with
    | boolean b => exact ⟨_, .boolean b⟩
    | integer n => exact ⟨_, .integer n⟩
    | float x => exact ⟨_, .float x⟩
    | string text => exact ⟨_, .string text⟩
    | datetime _ | array _ | table _ => exact scalar.elim

theorem Literal.ofToml_eq_ok {context : String} {value : Toml} {literal : Literal} :
    Literal.ofToml context value = .ok literal ↔ Literal.Shows value literal := by
  unfold Literal.ofToml
  rw [mapError_eq_ok]
  split
  · rename_i items
    rw [map_eq_ok]
    constructor
    · rintro ⟨literals, read, rfl⟩
      exact .list ((mapM_eq_ok.mp read).imp fun _ _ => Literal.ofItem?_eq_ok.mp)
    · rintro (⟨⟨⟩⟩ | each)
      exact ⟨_, mapM_eq_ok.mpr (each.imp fun _ _ => Literal.ofItem?_eq_ok.mpr), rfl⟩
  · rename_i notList
    rw [Literal.ofItem?_eq_ok]
    constructor
    · exact .scalar
    · rintro (scalar | each)
      · exact scalar
      · exact absurd rfl (notList _)

theorem Literal.exists_shows_iff {value : Toml} :
    (∃ literal, Literal.Shows value literal) ↔ value.IsLiteral := by
  constructor
  · rintro ⟨literal, scalar | each⟩
    · exact .inl (Literal.exists_ofScalar_iff.mp ⟨_, scalar⟩)
    · exact .inr ⟨_, rfl, fun item member =>
        Literal.exists_ofScalar_iff.mp (exists_forall₂_iff.mp ⟨_, each⟩ item member)⟩
  · rintro (scalar | ⟨items, rfl, each⟩)
    · exact (Literal.exists_ofScalar_iff.mpr scalar).imp fun _ => .scalar
    · obtain ⟨literals, shown⟩ := exists_forall₂_iff.mpr fun item member =>
        Literal.exists_ofScalar_iff.mpr (each item member)
      exact ⟨.list literals, .list shown⟩

theorem Literal.exists_ofToml_iff {context : String} {value : Toml} :
    (∃ literal, Literal.ofToml context value = .ok literal) ↔ value.IsLiteral := by
  simp only [ofToml_eq_ok, exists_shows_iff]

theorem Literal.Shows.isFlat {value : Toml} {literal : Literal}
    (shows : Literal.Shows value literal) : literal.IsFlat := by
  rintro items rfl item member
  rcases shows with ⟨⟨⟩⟩ | each
  obtain ⟨_, -, of⟩ := exists_of_mem_forall₂ each member
  cases of <;> rfl

/-! ## Traversals of tables -/

/-- A traversal of a table that gives one result under each key. -/
theorem mapM_labelled_eq_ok {α ε : Type} {f : String → Toml → Except ε α}
    {entries : List (String × Toml)} {results : List (String × α)} :
    (entries.mapM fun (key, value) => (f key value).map fun result => (key, result)) =
        .ok results ↔
      List.Forall₂ (fun entry result => result.1 = entry.1 ∧ f entry.1 entry.2 = .ok result.2)
        entries results := by
  have each : ∀ (entry : String × Toml) (result : String × α),
      ((f entry.1 entry.2).map fun found => (entry.1, found)) = .ok result ↔
        result.1 = entry.1 ∧ f entry.1 entry.2 = .ok result.2 := by
    rintro ⟨key, value⟩ ⟨label, result⟩
    rw [map_eq_ok]
    constructor
    · rintro ⟨found, isFound, same⟩
      cases same
      exact ⟨rfl, isFound⟩
    · rintro ⟨rfl, isFound⟩
      exact ⟨result, isFound, rfl⟩
  rw [mapM_eq_ok]
  exact ⟨fun read => read.imp fun _ _ => (each _ _).mp,
    fun read => read.imp fun _ _ => (each _ _).mpr⟩

theorem exists_mapM_labelled_iff {α ε : Type} {f : String → Toml → Except ε α}
    {entries : List (String × Toml)} :
    (∃ results, (entries.mapM fun (key, value) =>
        (f key value).map fun result => (key, result)) = .ok results) ↔
      ∀ entry ∈ entries, ∃ result, f entry.1 entry.2 = .ok result := by
  rw [exists_mapM_iff]
  exact forall₂_congr fun _ _ => exists_map_eq_ok

/-- Results that are labelled as the entries are have the labels of the entries, in order. -/
theorem labels_eq_keys {α β : Type} {label : β → String} {relation : String × α → β → Prop}
    {entries : List (String × α)} {results : List β}
    (labelled : ∀ entry result, relation entry result → label result = entry.1)
    (related : List.Forall₂ relation entries results) :
    results.map label = entries.map (·.1) :=
  (map_eq_map_iff_forall₂.mpr
    (related.imp fun entry result here => (labelled entry result here).symm)).symm

/-! ## Assignments -/

namespace Assignments

theorem insertEntry_of_fresh {label : String} {literal : Literal}
    {entries : List (String × Literal)} (fresh : label ∉ entries.map (·.1)) :
    insertEntry label literal entries = entries ++ [(label, literal)] := by
  induction entries with
  | nil => rfl
  | cons entry rest inductionHypothesis =>
      obtain ⟨differs, fresh⟩ := not_or.mp (List.mem_cons.not.mp fresh)
      rw [insertEntry, if_neg (Ne.symm differs), inductionHypothesis fresh, List.cons_append]

/-- Assignments of distinct labels are kept as they are. -/
theorem entries_ofList {entries : List (String × Literal)}
    (nodup : (entries.map (·.1)).Nodup) : (ofList entries).entries = entries := by
  induction entries using List.reverseRecOn with
  | nil => rfl
  | append_singleton before entry inductionHypothesis =>
      rw [List.map_append, List.map_singleton, List.nodup_append] at nodup
      obtain ⟨nodup, -, apart⟩ := nodup
      have fresh : entry.1 ∉ before.map (·.1) := fun taken =>
        apart _ taken _ List.mem_cons_self rfl
      have added : ofList (before ++ [entry]) = (ofList before).insert entry.1 entry.2 := by
        rw [ofList, List.foldl_append]
        rfl
      rw [added, insert, inductionHypothesis nodup, insertEntry_of_fresh fresh]

variable {context : String} {entries : List (String × Toml)} {body : Assignments}

theorem shows_of_ofToml (nodup : (entries.map (·.1)).Nodup)
    (read : Assignments.ofToml context entries = .ok body) : body.Shows entries := by
  obtain ⟨assigned, collected, rfl⟩ := map_eq_ok.mp read
  have related := (mapM_labelled_eq_ok
    (f := fun label value => Literal.ofToml (below context label) value)).mp collected
  have labels : assigned.map (·.1) = entries.map (·.1) :=
    labels_eq_keys (fun _ _ here => here.1) related
  rw [Shows, entries_ofList (labels ▸ nodup)]
  exact related.imp fun _ _ here => ⟨here.1, Literal.ofToml_eq_ok.mp here.2⟩

theorem exists_ofToml_iff :
    (∃ body, Assignments.ofToml context entries = .ok body) ↔
      ∀ entry ∈ entries, entry.2.IsLiteral := by
  have each : ∀ entry ∈ entries,
      (∃ literal, Literal.ofToml (below context entry.1) entry.2 = .ok literal) ↔
        entry.2.IsLiteral := fun _ _ => Literal.exists_ofToml_iff
  rw [← forall₂_congr each]
  exact exists_map_eq_ok.trans (exists_mapM_labelled_iff
    (f := fun label value => Literal.ofToml (below context label) value))

theorem Shows.isFlat (shows : body.Shows entries) : body.IsFlat := by
  intro assigned member
  obtain ⟨_, -, -, here⟩ := exists_of_mem_forall₂ shows member
  exact here.isFlat

end Assignments

end SignalNet
