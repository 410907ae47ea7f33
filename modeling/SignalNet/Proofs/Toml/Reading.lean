import SignalNet.Proofs.Outcome
import SignalNet.Proofs.Toml.Distinct
import SignalNet.Toml.Reader

/-!
Contract: the tables that a configuration text reads as have distinct keys.

While a document is built, an entry is only added under a key that is not taken, or takes
the place of the entry with its key. Tables between braces are built in the same way, and
everything else that a line gives is a scalar or a list.

Owns: what building keeps (`Items.Distinct`), what every reader of values gives
(`Reader.GivesDistinct`), and the law for whole texts (`distinct_of_parse?`).
-/

set_option autoImplicit false

namespace SignalNet.Toml

/-! ## Tables that are being built -/

theorem itemsToToml_eq_map (items : Items) :
    itemsToToml items = items.map fun entry => (entry.1, entry.2.toToml) := by
  induction items with
  | nil => rw [itemsToToml, List.map_nil]
  | cons entry rest inductionHypothesis => rw [itemsToToml, List.map_cons, inductionHypothesis]

theorem elementsToToml_eq_map (elements : List Items) :
    elementsToToml elements = elements.map fun items => .table (itemsToToml items) := by
  induction elements with
  | nil => rw [elementsToToml, List.map_nil]
  | cons items rest inductionHypothesis =>
      rw [elementsToToml, List.map_cons, inductionHypothesis]

namespace Items

/-- The table that is being built stands for one with distinct keys. -/
def Distinct (items : Items) : Prop := (Toml.table (itemsToToml items)).Distinct

theorem distinct_iff {items : Items} :
    items.Distinct ↔ (items.map (·.1)).Nodup ∧ ∀ entry ∈ items, entry.2.toToml.Distinct := by
  have keys : (itemsToToml items).map (·.1) = items.map (·.1) := by
    rw [itemsToToml_eq_map, List.map_map]
    rfl
  rw [Distinct, Toml.Distinct, keys, distinctEntries_iff, itemsToToml_eq_map, List.forall_mem_map]

theorem distinct_nil : Distinct [] :=
  distinct_iff.mpr ⟨List.nodup_nil, List.forall_mem_nil _⟩

theorem distinct_table {implicit dotted : Bool} {inner : Items} :
    (Item.table implicit dotted inner).toToml.Distinct ↔ inner.Distinct := by
  rw [Item.toToml, Distinct]

theorem distinct_tables {elements : List Items} :
    (Item.tables elements).toToml.Distinct ↔ ∀ items ∈ elements, items.Distinct := by
  rw [Item.toToml, Toml.Distinct, distinctItems_iff, elementsToToml_eq_map, List.forall_mem_map]
  rfl

variable {items : Items} {key : String} {item : Item}

theorem Distinct.of_get? (distinct : items.Distinct) (found : items.get? key = some item) :
    item.toToml.Distinct := by
  obtain ⟨entry, isEntry, rfl⟩ := Option.map_eq_some_iff.mp found
  exact (distinct_iff.mp distinct).2 entry (List.mem_of_find?_eq_some isEntry)

theorem Distinct.append (distinct : items.Distinct) (fresh : items.get? key = none)
    (holds : item.toToml.Distinct) : Distinct (items ++ [(key, item)]) := by
  obtain ⟨nodup, each⟩ := distinct_iff.mp distinct
  have absent : key ∉ items.map (·.1) := by
    intro taken
    obtain ⟨entry, member, rfl⟩ := List.mem_map.mp taken
    have none := List.find?_eq_none.mp (Option.map_eq_none_iff.mp fresh) entry member
    simp at none
  refine distinct_iff.mpr ⟨?_, ?_⟩
  · rw [List.map_append, List.map_singleton, ← List.concat_eq_append]
    exact nodup.concat absent
  · intro entry member
    rcases List.mem_append.mp member with old | new
    · exact each entry old
    · exact List.mem_singleton.mp new ▸ holds

theorem Distinct.replace (distinct : items.Distinct) (holds : item.toToml.Distinct) :
    (items.replace key item).Distinct := by
  obtain ⟨nodup, each⟩ := distinct_iff.mp distinct
  refine distinct_iff.mpr ⟨?_, ?_⟩
  · have keys : (items.replace key item).map (·.1) = items.map (·.1) := by
      rw [Items.replace, List.map_map]
      refine List.map_congr_left fun entry _ => ?_
      by_cases same : entry.1 = key <;> simp [same]
    rwa [keys]
  · intro entry member
    obtain ⟨old, isOld, rfl⟩ := List.mem_map.mp member
    split
    · exact holds
    · exact each old isOld

theorem Distinct.erase (distinct : items.Distinct) : (items.erase key).Distinct := by
  obtain ⟨nodup, each⟩ := distinct_iff.mp distinct
  exact distinct_iff.mpr ⟨nodup.sublist (List.filter_sublist.map _),
    fun entry member => each entry (List.mem_of_mem_filter member)⟩

theorem get?_erase : (items.erase key).get? key = none := by
  rw [get?, Option.map_eq_none_iff, List.find?_eq_none]
  intro entry member
  simpa [erase] using (List.mem_filter.mp member).2

/-- Editing keeps keys distinct if the change at the end of the path does. -/
theorem Distinct.edit {dotted : Bool} {f : Bool → Items → Option Items}
    (keeps : ∀ isDotted (inner after : Items), inner.Distinct → f isDotted inner = some after →
      after.Distinct)
    {path : List String} {isDotted : Bool} {items after : Items} (distinct : items.Distinct)
    (edited : Items.edit dotted f path isDotted items = some after) : after.Distinct := by
  induction path generalizing isDotted items after with
  | nil => exact keeps _ _ _ distinct edited
  | cons key path inductionHypothesis =>
      rw [Items.edit] at edited
      split at edited
      · rename_i fresh
        obtain ⟨inner, made, rfl⟩ := Option.map_eq_some_iff.mp edited
        exact distinct.append fresh (distinct_table.mpr (inductionHypothesis distinct_nil made))
      · cases edited
      · rename_i elements found
        have each := distinct_tables.mp (distinct.of_get? found)
        split at edited
        · cases edited
        · rename_i last isLast
          obtain ⟨inner, made, rfl⟩ := Option.map_eq_some_iff.mp edited
          have lastDistinct := each last (List.mem_of_getLast? isLast)
          refine distinct.replace (distinct_tables.mpr fun other member => ?_)
          rcases List.mem_append.mp member with early | isInner
          · exact each other (List.dropLast_subset _ early)
          · exact List.mem_singleton.mp isInner ▸ inductionHypothesis lastDistinct made
      · rename_i implicit isDotted inner found
        split at edited
        · cases edited
        · obtain ⟨changed, made, rfl⟩ := Option.map_eq_some_iff.mp edited
          have innerDistinct := distinct_table.mp (distinct.of_get? found)
          exact distinct.replace (distinct_table.mpr (inductionHypothesis innerDistinct made))

theorem Distinct.addLine {items after : Items} {line : Line} (distinct : items.Distinct)
    (holds : line.value.Distinct) (added : items.addLine line = some after) : after.Distinct := by
  refine distinct.edit ?_ added
  intro isDotted inner changed innerDistinct made
  split at made
  · cases made
  · split at made
    · cases made
    · rename_i fresh
      cases made
      exact innerDistinct.append fresh holds

theorem Distinct.addLines {items after : Items} {lines : List Line} (distinct : items.Distinct)
    (holds : ∀ line ∈ lines, line.value.Distinct) (added : items.addLines lines = some after) :
    after.Distinct :=
  foldlM_keeps_of_some distinct
    (fun line member _ _ before step => before.addLine (holds line member) step) added

theorem Distinct.addSection {root after : Items} {part : Section} (distinct : root.Distinct)
    (holds : ∀ line ∈ part.lines, line.value.Distinct)
    (added : root.addSection part = some after) : after.Distinct := by
  refine distinct.edit ?_ added
  intro _ parent changed parentDistinct made
  have ofLines : ∀ own, Items.addLines [] part.lines = some own → Distinct own :=
    fun _ => distinct_nil.addLines holds
  split at made
  · rename_i fresh
    obtain ⟨own, isOwn, rfl⟩ := Option.map_eq_some_iff.mp made
    exact parentDistinct.append fresh (distinct_table.mpr (ofLines _ isOwn))
  · rename_i inner found
    obtain ⟨own, isOwn, rfl⟩ := Option.map_eq_some_iff.mp made
    have innerDistinct := distinct_table.mp (parentDistinct.of_get? found)
    exact parentDistinct.erase.append get?_erase
      (distinct_table.mpr (innerDistinct.addLines holds isOwn))
  · cases made
  · rename_i fresh
    obtain ⟨own, isOwn, rfl⟩ := Option.map_eq_some_iff.mp made
    exact parentDistinct.append fresh
      (distinct_tables.mpr (List.forall_mem_singleton.mpr (ofLines _ isOwn)))
  · rename_i elements found
    obtain ⟨own, isOwn, rfl⟩ := Option.map_eq_some_iff.mp made
    have each := distinct_tables.mp (parentDistinct.of_get? found)
    refine parentDistinct.replace (distinct_tables.mpr fun items member => ?_)
    rcases List.mem_append.mp member with early | isOwn'
    · exact each items early
    · exact List.mem_singleton.mp isOwn' ▸ ofLines _ isOwn
  · cases made

end Items

theorem distinct_of_ofLines? {lines : List Line} {value : Toml}
    (holds : ∀ line ∈ lines, line.value.Distinct) (made : ofLines? lines = some value) :
    value.Distinct := by
  obtain ⟨items, added, rfl⟩ := Option.map_eq_some_iff.mp made
  exact Items.distinct_nil.addLines holds added

theorem distinct_of_ofSections? {lines : List Line} {sections : List Section}
    {entries : List (String × Toml)} (holds : ∀ line ∈ lines, line.value.Distinct)
    (below : ∀ part ∈ sections, ∀ line ∈ part.lines, line.value.Distinct)
    (made : ofSections? lines sections = some entries) : (Toml.table entries).Distinct := by
  obtain ⟨items, added, rfl⟩ := Option.map_eq_some_iff.mp made
  obtain ⟨root, first, others⟩ := Option.bind_eq_some_iff.mp added
  exact foldlM_keeps_of_some (motive := Items.Distinct) (Items.distinct_nil.addLines holds first)
    (fun part member _ _ before step => before.addSection (below part member) step) others

/-! ## Values -/

theorem Scalar.distinct_of_ofInt? {n : Int} {value : Toml} (made : ofInt? n = some value) :
    value.Distinct := by
  unfold ofInt? at made
  split at made
  · cases made
    trivial
  · cases made

theorem Scalar.distinct_of_readInteger? {text : List Char} {value : Toml}
    (read : readInteger? text = some value) : value.Distinct := by
  have ofBase : ∀ base digits, readBase? base digits = some value → value.Distinct := by
    intro base digits made
    unfold readBase? at made
    split at made
    · exact distinct_of_ofInt? made
    · cases made
  unfold readInteger? at read
  split at read
  · exact ofBase _ _ read
  · exact ofBase _ _ read
  · exact ofBase _ _ read
  · dsimp only at read
    split at read
    · exact distinct_of_ofInt? read
    · cases read

theorem Scalar.distinct_of_read? {text : List Char} {value : Toml}
    (made : Scalar.read? text = some value) : value.Distinct := by
  unfold Scalar.read? at made
  split at made
  · cases made
    trivial
  · split at made
    · cases made
      trivial
    · rcases Option.or_eq_some_iff.mp made with isMoment | ⟨-, isNumber⟩
      · obtain ⟨moment, -, rfl⟩ := Option.map_eq_some_iff.mp isMoment
        trivial
      · rcases Option.or_eq_some_iff.mp isNumber with isInteger | ⟨-, isFloat⟩
        · exact distinct_of_readInteger? isInteger
        · obtain ⟨x, -, rfl⟩ := Option.map_eq_some_iff.mp isFloat
          trivial

namespace Reader

theorem distinct_of_readScalar? {text rest : List Char} {value : Toml}
    (read : readScalar? text = some (value, rest)) : value.Distinct := by
  unfold readScalar? at read
  rw [Option.orElse_eq_or] at read
  rcases Option.or_eq_some_iff.mp read with joined | ⟨-, alone⟩
  · split at joined
    · obtain ⟨moment, -, same⟩ := Option.map_eq_some_iff.mp joined
      cases same
      trivial
    · cases joined
  · obtain ⟨scalar, isScalar, same⟩ := Option.map_eq_some_iff.mp alone
    cases same
    exact Scalar.distinct_of_read? isScalar

/-- Whatever is read with a number of steps has distinct keys. -/
structure GivesDistinct (steps : Nat) : Prop where
  value : ∀ {depth text value rest}, readValue? steps depth text = some (value, rest) →
    value.Distinct
  items : ∀ {depth before text items rest}, (∀ item ∈ before, item.Distinct) →
    readItems? steps depth before text = some (items, rest) → ∀ item ∈ items, item.Distinct
  lines : ∀ {depth text lines rest}, readLines? steps depth text = some (lines, rest) →
    ∀ line ∈ lines, line.value.Distinct
  moreLines : ∀ {depth before text lines rest}, (∀ line ∈ before, line.value.Distinct) →
    readMoreLines? steps depth before text = some (lines, rest) →
      ∀ line ∈ lines, line.value.Distinct

section

variable {steps depth : Nat} {text rest : List Char} (gives : GivesDistinct steps)
include gives

theorem GivesDistinct.value_succ {value : Toml}
    (read : readValue? (steps + 1) depth text = some (value, rest)) : value.Distinct := by
  unfold readValue? at read
  split at read
  · split at read
    · cases read
    · obtain ⟨⟨items, after⟩, itemsRead, same⟩ := Option.map_eq_some_iff.mp read
      cases same
      have each := gives.items (List.forall_mem_nil _) itemsRead
      exact distinctItems_iff.mpr fun item member => each item (List.mem_reverse.mp member)
  · split at read
    · cases read
    · split at read
      · rename_i lines after linesRead
        obtain ⟨table, made, same⟩ := Option.map_eq_some_iff.mp read
        cases same
        exact distinct_of_ofLines? (gives.lines linesRead) made
      · cases read
  · obtain ⟨content, -, same⟩ := Option.map_eq_some_iff.mp read
    cases same
    trivial
  · obtain ⟨content, -, same⟩ := Option.map_eq_some_iff.mp read
    cases same
    trivial
  · exact distinct_of_readScalar? read

theorem GivesDistinct.items_succ {before items : List Toml}
    (holds : ∀ item ∈ before, item.Distinct)
    (read : readItems? (steps + 1) depth before text = some (items, rest)) :
    ∀ item ∈ items, item.Distinct := by
  rw [readItems?] at read
  split at read
  · cases read
    exact holds
  · split at read
    · cases read
    · rename_i item after itemRead
      have longer : ∀ other ∈ item :: before, other.Distinct :=
        List.forall_mem_cons.mpr ⟨gives.value itemRead, holds⟩
      split at read
      · exact gives.items longer read
      · cases read
        exact longer
      · cases read

theorem GivesDistinct.lines_succ {lines : List Line}
    (read : readLines? (steps + 1) depth text = some (lines, rest)) :
    ∀ line ∈ lines, line.value.Distinct := by
  rw [readLines?] at read
  split at read
  · cases read
    exact List.forall_mem_nil _
  · exact gives.moreLines (List.forall_mem_nil _) read

theorem GivesDistinct.moreLines_succ {before lines : List Line}
    (holds : ∀ line ∈ before, line.value.Distinct)
    (read : readMoreLines? (steps + 1) depth before text = some (lines, rest)) :
    ∀ line ∈ lines, line.value.Distinct := by
  rw [readMoreLines?] at read
  split at read
  · rename_i path key after keyRead
    split at read
    · cases read
    · rename_i value behind valueRead
      have longer : ∀ line ∈ (⟨path, key, value⟩ : Line) :: before, line.value.Distinct :=
        List.forall_mem_cons.mpr ⟨gives.value valueRead, holds⟩
      split at read
      · exact gives.moreLines longer read
      · cases read
        exact fun line member => longer line (List.mem_reverse.mp member)
      · cases read
  · cases read

end

theorem givesDistinct (steps : Nat) : GivesDistinct steps := by
  induction steps with
  | zero => constructor <;> simp [readValue?, readItems?, readLines?, readMoreLines?]
  | succ steps gives =>
      exact ⟨gives.value_succ, gives.items_succ, gives.lines_succ, gives.moreLines_succ⟩

/-! ## Documents -/

theorem distinct_of_readLine? {text rest : List Char} {line : Line}
    (read : readLine? text = some (line, rest)) : line.value.Distinct := by
  unfold readLine? at read
  split at read
  · split at read
    · cases read
    · rename_i value after valueRead
      obtain ⟨behind, -, same⟩ := Option.map_eq_some_iff.mp read
      cases same
      exact (givesDistinct _).value valueRead
  · cases read

/-- All lines of a document so far have values with distinct keys. -/
structure Progress.Distinct (progress : Progress) : Prop where
  lines : ∀ line ∈ progress.lines, line.value.Distinct
  sections : ∀ part ∈ progress.sections, ∀ line ∈ part.lines, line.value.Distinct

theorem Progress.Distinct.addLine {progress : Progress} (distinct : progress.Distinct)
    {line : Line} (holds : line.value.Distinct) : (progress.addLine line).Distinct := by
  unfold Progress.addLine
  split
  · exact ⟨List.forall_mem_cons.mpr ⟨holds, distinct.lines⟩, distinct.sections⟩
  · rename_i part rest isFirst
    obtain ⟨here, others⟩ := List.forall_mem_cons.mp (isFirst ▸ distinct.sections)
    exact ⟨distinct.lines,
      List.forall_mem_cons.mpr ⟨List.forall_mem_cons.mpr ⟨holds, here⟩, others⟩⟩

theorem Progress.Distinct.addHeader {progress : Progress} (distinct : progress.Distinct)
    (header : Header) : (progress.addHeader header).Distinct :=
  ⟨distinct.lines, List.forall_mem_cons.mpr
    ⟨List.forall_mem_nil _, distinct.sections⟩⟩

theorem distinct_of_readDocument? {steps : Nat} {progress final : Progress} {text : List Char}
    (distinct : progress.Distinct) (read : readDocument? steps progress text = some final) :
    final.Distinct := by
  induction steps generalizing progress text with
  | zero =>
      rw [readDocument?] at read
      cases read
  | succ steps inductionHypothesis =>
      rw [readDocument?] at read
      split at read
      · cases read
        exact distinct
      · split at read
        · exact inductionHypothesis (distinct.addHeader _) read
        · cases read
      · split at read
        · rename_i line after lineRead
          exact inductionHypothesis (distinct.addLine (distinct_of_readLine? lineRead)) read
        · cases read

end Reader

/-- What a configuration text reads as has no key twice in any of its tables. -/
theorem distinct_of_parse? {text : String} {entries : List (String × Toml)}
    (read : parse? text = some entries) : (Toml.table entries).Distinct := by
  obtain ⟨progress, document, made⟩ := Option.bind_eq_some_iff.mp read
  have distinct : progress.Distinct := Reader.distinct_of_readDocument?
    ⟨List.forall_mem_nil _, List.forall_mem_nil _⟩ document
  refine distinct_of_ofSections? ?_ ?_ made
  · exact fun line member => distinct.lines line (List.mem_reverse.mp member)
  · intro part member line listed
    obtain ⟨written, isWritten, rfl⟩ := List.mem_map.mp member
    exact distinct.sections written (List.mem_reverse.mp isWritten) line
      (List.mem_reverse.mp listed)

end SignalNet.Toml
