import Mathlib.Data.List.Nodup
import SignalNet.Toml.Tree

/-!
Contract: a key stands once in a table.

The type of trees allows a table to repeat a key, and a tree that stands for
configuration data never does. Only what depends on this asks for it.

Owns: `Toml.Distinct`, and that writing dates and times as texts keeps it.
-/

set_option autoImplicit false

namespace SignalNet.Toml

mutual

/-- No table in the tree has a key twice. -/
def Distinct : Toml → Prop
  | boolean _ | integer _ | float _ | string _ | datetime _ => True
  | array items => DistinctItems items
  | table entries => (entries.map (·.1)).Nodup ∧ DistinctEntries entries

def DistinctItems : List Toml → Prop
  | [] => True
  | item :: rest => item.Distinct ∧ DistinctItems rest

def DistinctEntries : List (String × Toml) → Prop
  | [] => True
  | (_, value) :: rest => value.Distinct ∧ DistinctEntries rest

end

mutual

instance decidableDistinct : (value : Toml) → Decidable value.Distinct
  | boolean _ | integer _ | float _ | string _ | datetime _ => .isTrue trivial
  | array items => decidableDistinctItems items
  | table entries => @instDecidableAnd _ _ inferInstance (decidableDistinctEntries entries)

instance decidableDistinctItems : (items : List Toml) → Decidable (DistinctItems items)
  | [] => .isTrue trivial
  | item :: rest => @instDecidableAnd _ _ (decidableDistinct item) (decidableDistinctItems rest)

instance decidableDistinctEntries :
    (entries : List (String × Toml)) → Decidable (DistinctEntries entries)
  | [] => .isTrue trivial
  | (_, value) :: rest =>
      @instDecidableAnd _ _ (decidableDistinct value) (decidableDistinctEntries rest)

end

theorem distinctItems_iff {items : List Toml} :
    DistinctItems items ↔ ∀ item ∈ items, item.Distinct := by
  induction items with
  | nil => exact iff_of_true trivial (List.forall_mem_nil _)
  | cons item rest inductionHypothesis =>
      rw [DistinctItems, inductionHypothesis, List.forall_mem_cons]

theorem distinctEntries_iff {entries : List (String × Toml)} :
    DistinctEntries entries ↔ ∀ entry ∈ entries, entry.2.Distinct := by
  induction entries with
  | nil => exact iff_of_true trivial (List.forall_mem_nil _)
  | cons entry rest inductionHypothesis =>
      rw [DistinctEntries, inductionHypothesis, List.forall_mem_cons]

theorem DistinctEntries.of_mem {entries : List (String × Toml)}
    (distinct : DistinctEntries entries) {key : String} {value : Toml}
    (member : (key, value) ∈ entries) : value.Distinct :=
  distinctEntries_iff.mp distinct _ member

theorem keys_plainEntries (entries : List (String × Toml)) :
    (plainEntries entries).map (·.1) = entries.map (·.1) := by
  induction entries with
  | nil => rfl
  | cons entry rest inductionHypothesis =>
      rw [plainEntries, List.map_cons, List.map_cons, inductionHypothesis]

mutual

theorem Distinct.plain : {value : Toml} → value.Distinct → value.plain.Distinct
  | boolean _, _ | integer _, _ | float _, _ | string _, _ | datetime _, _ => trivial
  | array _, distinct => DistinctItems.plain distinct
  | table entries, distinct =>
      ⟨(keys_plainEntries entries).symm ▸ distinct.1, DistinctEntries.plain distinct.2⟩

theorem DistinctItems.plain : {items : List Toml} → DistinctItems items →
    DistinctItems (plainItems items)
  | [], _ => trivial
  | _ :: _, ⟨here, others⟩ => ⟨here.plain, DistinctItems.plain others⟩

theorem DistinctEntries.plain : {entries : List (String × Toml)} → DistinctEntries entries →
    DistinctEntries (plainEntries entries)
  | [], _ => trivial
  | _ :: _, ⟨here, others⟩ => ⟨here.plain, DistinctEntries.plain others⟩

end

end SignalNet.Toml
