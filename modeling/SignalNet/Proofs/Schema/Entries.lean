import SignalNet.Proofs.Outcome
import SignalNet.Proofs.Toml.Distinct
import SignalNet.Schema.Entry

/-!
Contract: the fields of an entry, be it a table or a list.

Every layout ends with a field that has to be in a list. So a list is only read if it has
all fields, and then it is read like the table that names them. What is known of reading
tables is known of reading entries.

Owns: the table that a list of fields stands for (`Toml.tabled`), and when the fields of an
entry are read (`Entry.readFields_eq_ok`).
-/

set_option autoImplicit false

namespace SignalNet

namespace Toml

/-- The value as the table of some keys, if it is a list with an item for each of them. -/
def tabled (keys : List String) : Toml → Toml
  | array items => if items.length = keys.length then .table (keys.zip items) else .array items
  | value => value

theorem Distinct.tabled {keys : List String} (nodup : keys.Nodup) {value : Toml}
    (distinct : value.Distinct) : (value.tabled keys).Distinct := by
  cases value with
  | boolean | integer | float | string | datetime | table => exact distinct
  | array items =>
      rw [Toml.tabled]
      split
      · rename_i sameLength
        refine ⟨?_, distinctEntries_iff.mpr fun entry member => ?_⟩
        · rwa [List.map_fst_zip (Nat.le_of_eq sameLength.symm)]
        · exact distinctItems_iff.mp distinct _ (List.of_mem_zip member).2
      · exact distinct

end Toml

namespace Entry

section

variable {α : Type} {wanted : Wanted} {layout : Layout} {start result : α}
  {field : α → String → Toml → Except FieldFault α}

/-- A list that ends with a field which has to be there is read if it has an item for every
field. -/
theorem readItems_eq_ok (ends : layout.getLast?.map (·.2) = some true) {items : List Toml} :
    readItems wanted layout start field items = .ok result ↔
      items.length = layout.length ∧
        foldFields start field (layout.keys.zip items) = .ok result := by
  obtain ⟨last, isLast, required⟩ := Option.map_eq_some_iff.mp ends
  obtain ⟨before, isLayout⟩ := List.getLast?_eq_some_iff.mp isLast
  rw [readItems, bind_eq_ok]
  constructor
  · rintro ⟨entry, folded, checked⟩
    split at checked
    · cases checked
    · rename_i noneLeft
      split at checked
      · rename_i fits
        cases checked
        refine ⟨?_, folded⟩
        by_contra differs
        have inside : items.length ≤ before.length := by
          rw [isLayout, List.length_append, List.length_singleton] at fits differs
          omega
        have isLeft : last ∈ layout.drop items.length := by
          rw [isLayout, List.drop_append_of_le_length inside]
          exact List.mem_append_right _ (List.mem_singleton_self last)
        cases (List.findIdx?_eq_none_iff.mp noneLeft last isLeft).symm.trans required
      · cases checked
  · rintro ⟨sameLength, folded⟩
    refine ⟨result, folded, ?_⟩
    rw [sameLength, List.drop_length, List.findIdx?_nil]
    exact if_pos (Nat.le_refl _)

/-- The fields of an entry are those of the table that its plain form is or stands for, read in
turn. -/
theorem readFields_eq_ok (ends : layout.getLast?.map (·.2) = some true) {value : Toml} :
    readFields wanted layout start field value = .ok result ↔
      ∃ fields, value.plain.tabled layout.keys = .table fields ∧
        foldFields start field fields = .ok result := by
  rw [readFields]
  cases value.plain with
  | table fields => simp [Toml.tabled]
  | array items =>
      have sameLength : layout.keys.length = layout.length := List.length_map _
      dsimp only
      rw [readItems_eq_ok ends, Toml.tabled, sameLength]
      split
      · rename_i isFull
        simp [isFull]
      · rename_i notFull
        simp [notFull]
  | boolean | integer | float | string | datetime => simp [Toml.tabled, refuse]

end

end Entry

end SignalNet
