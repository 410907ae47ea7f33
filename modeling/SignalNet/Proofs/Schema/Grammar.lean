import SignalNet.Proofs.Toml.Distinct

/-!
Contract: which configuration trees are networks.

The grammar is a family of predicates on trees, one for each kind of entry, and says
nothing of how or in which order entries are read. All of it can be decided.

Dates and times have no literal form, so they stand nowhere in a proc of the grammar.

Owns: the grammar (`Toml.IsNetwork`), the entries of a table by their keys, and that
writing dates and times as texts changes no proc of the grammar.
-/

set_option autoImplicit false

namespace SignalNet.Toml

/-! ## The grammar -/

/-- What can stand for all channels, or for one channel in a list. -/
def IsScalar : Toml → Prop
  | boolean _ | integer _ | float _ | string _ => True
  | datetime _ | array _ | table _ => False

instance decidableIsScalar : DecidablePred IsScalar
  | boolean _ | integer _ | float _ | string _ => .isTrue trivial
  | datetime _ | array _ | table _ => .isFalse id

def IsText (value : Toml) : Prop := ∃ text, value = .string text

instance decidableIsText : DecidablePred IsText
  | string text => .isTrue ⟨text, rfl⟩
  | boolean _ | integer _ | float _ | datetime _ | array _ | table _ =>
      .isFalse fun ⟨_, same⟩ => nomatch same

/-- A number that is not negative. -/
def IsCount (value : Toml) : Prop := ∃ n : Int64, value = .integer n ∧ 0 ≤ n

instance decidableIsCount : DecidablePred IsCount
  | integer n => decidable_of_iff (0 ≤ n)
      ⟨fun nonneg => ⟨n, rfl, nonneg⟩, fun ⟨_, same, nonneg⟩ => integer.inj same ▸ nonneg⟩
  | boolean _ | float _ | string _ | datetime _ | array _ | table _ =>
      .isFalse fun ⟨_, same, _⟩ => nomatch same

section

variable (kind : Toml → Prop) [DecidablePred kind]

/-- A list all of whose items are of a kind. -/
def IsListOf (value : Toml) : Prop := ∃ items, value = .array items ∧ ∀ item ∈ items, kind item

instance decidableIsListOf : DecidablePred (IsListOf kind)
  | array items => decidable_of_iff (∀ item ∈ items, kind item)
      ⟨fun each => ⟨items, rfl, each⟩, fun ⟨_, same, each⟩ => array.inj same ▸ each⟩
  | boolean _ | integer _ | float _ | string _ | datetime _ | table _ =>
      .isFalse fun ⟨_, same, _⟩ => nomatch same

/-- A table all of whose entries are of a kind. -/
def IsTableOf (value : Toml) : Prop :=
  ∃ entries, value = .table entries ∧ ∀ entry ∈ entries, kind entry.2

instance decidableIsTableOf : DecidablePred (IsTableOf kind)
  | table entries => decidable_of_iff (∀ entry ∈ entries, kind entry.2)
      ⟨fun each => ⟨entries, rfl, each⟩, fun ⟨_, same, each⟩ => table.inj same ▸ each⟩
  | boolean _ | integer _ | float _ | string _ | datetime _ | array _ =>
      .isFalse fun ⟨_, same, _⟩ => nomatch same

end

/-- A scalar, or a flat list of scalars. -/
def IsLiteral (value : Toml) : Prop := value.IsScalar ∨ value.IsListOf IsScalar

instance decidableIsLiteral : DecidablePred IsLiteral := fun _ =>
  inferInstanceAs (Decidable (_ ∨ _))

/-- A field of a proc has a known name, and the type that belongs to the name. -/
def IsProcField (key : String) (value : Toml) : Prop :=
  key ∈ ["class", "preset", "device"] ∧ value.IsText ∨
  key = "args" ∧ value.IsTableOf IsLiteral ∨
  key = "in" ∧ value.IsTableOf IsText ∨
  key = "poly_cnt" ∧ value.IsCount

instance decidableIsProcField (key : String) : DecidablePred (IsProcField key) := fun _ =>
  inferInstanceAs (Decidable (_ ∨ _))

/-- A proc is a table of such fields that has a class. -/
def IsProc (value : Toml) : Prop :=
  ∃ fields, value = .table fields ∧ (∀ field ∈ fields, IsProcField field.1 field.2) ∧
    "class" ∈ fields.map (·.1)

instance decidableIsProc : DecidablePred IsProc
  | table fields => decidable_of_iff
      ((∀ field ∈ fields, IsProcField field.1 field.2) ∧ "class" ∈ fields.map (·.1))
      ⟨fun each => ⟨fields, rfl, each⟩, fun ⟨_, same, each⟩ => table.inj same ▸ each⟩
  | boolean _ | integer _ | float _ | string _ | datetime _ | array _ =>
      .isFalse fun ⟨_, same, _⟩ => nomatch same

def IsPresetEntry (value : Toml) : Prop := value.IsText ∨ value.IsTableOf IsLiteral

instance decidableIsPresetEntry : DecidablePred IsPresetEntry := fun _ =>
  inferInstanceAs (Decidable (_ ∨ _))

/-- A field of a network is its table of procs or its table of presets. Which trees are procs
is left open. -/
def IsNetworkField (isProc : Toml → Prop) (key : String) (value : Toml) : Prop :=
  key = "procs" ∧ value.IsTableOf isProc ∨
  key = "presets" ∧ value.IsTableOf (IsTableOf IsPresetEntry)

instance decidableIsNetworkField (isProc : Toml → Prop) [DecidablePred isProc] (key : String) :
    DecidablePred (IsNetworkField isProc key) := fun _ => inferInstanceAs (Decidable (_ ∨ _))

def IsNetwork (isProc : Toml → Prop) (entries : List (String × Toml)) : Prop :=
  ∀ entry ∈ entries, IsNetworkField isProc entry.1 entry.2

instance decidableIsNetwork (isProc : Toml → Prop) [DecidablePred isProc] :
    DecidablePred (IsNetwork isProc) := fun entries =>
  inferInstanceAs (Decidable (∀ entry ∈ entries, _))

section

variable {isProc : Toml → Prop} {key : String} {value : Toml}

@[simp]
theorem isProcField_args : IsProcField "args" value ↔ value.IsTableOf IsLiteral := by
  simp [IsProcField]

@[simp]
theorem isProcField_in : IsProcField "in" value ↔ value.IsTableOf IsText := by
  simp [IsProcField]

@[simp]
theorem isNetworkField_procs : IsNetworkField isProc "procs" value ↔ value.IsTableOf isProc := by
  simp [IsNetworkField]

@[simp]
theorem isNetworkField_presets :
    IsNetworkField isProc "presets" value ↔ value.IsTableOf (IsTableOf IsPresetEntry) := by
  simp [IsNetworkField]

theorem IsNetworkField.known (isField : IsNetworkField isProc key value) :
    key = "procs" ∨ key = "presets" :=
  isField.imp And.left And.left

end

/-- The value holds no dates and times, at any depth. -/
def IsPlain (value : Toml) : Prop := value.plain = value

/-- The entries of the table under a key. -/
def entriesAt (entries : List (String × Toml)) (key : String) : List (String × Toml) :=
  match lookup entries key with
  | some (.table inner) => inner
  | _ => []

/-! ## Entries by their keys -/

variable {entries rest : List (String × Toml)} {key other : String} {value : Toml}

theorem lookup_cons :
    lookup ((key, value) :: rest) other =
      if key = other then some value else lookup rest other := by
  by_cases same : key = other <;> simp [lookup, same]

theorem lookup_eq_some_iff (nodup : (entries.map (·.1)).Nodup) :
    lookup entries key = some value ↔ (key, value) ∈ entries := by
  induction entries with
  | nil => simp [lookup]
  | cons entry rest inductionHypothesis =>
      obtain ⟨present, old⟩ := entry
      obtain ⟨fresh, nodup⟩ := List.nodup_cons.mp nodup
      rw [lookup_cons, List.mem_cons, Prod.mk.injEq]
      split
      · rename_i same
        subst same
        have absent : (present, value) ∉ rest := fun member =>
          fresh (List.mem_map_of_mem (f := (·.1)) member)
        simp [absent, eq_comm]
      · rename_i differs
        simp [inductionHypothesis nodup, Ne.symm differs]

theorem lookup_isSome_of_mem (present : key ∈ entries.map (·.1)) :
    ∃ value, lookup entries key = some value := by
  obtain ⟨entry, member, rfl⟩ := List.mem_map.mp present
  cases found : lookup entries entry.1 with
  | some value => exact ⟨value, rfl⟩
  | none =>
      have differs := List.find?_eq_none.mp (Option.map_eq_none_iff.mp found) entry member
      simp at differs

theorem lookup_reverse (nodup : (entries.map (·.1)).Nodup) :
    lookup entries.reverse key = lookup entries key := by
  have reversed : (entries.reverse.map (·.1)).Nodup := by
    rwa [List.map_reverse, List.nodup_reverse]
  refine Option.ext fun value => ?_
  rw [lookup_eq_some_iff reversed, lookup_eq_some_iff nodup, List.mem_reverse]

theorem entriesAt_cons_table {inner : List (String × Toml)} :
    entriesAt ((key, .table inner) :: rest) key = inner := by
  rw [entriesAt, lookup_cons, if_pos rfl]

theorem entriesAt_cons_of_ne (differs : key ≠ other) :
    entriesAt ((key, value) :: rest) other = entriesAt rest other := by
  rw [entriesAt, lookup_cons, if_neg differs, entriesAt]

theorem entriesAt_reverse (nodup : (entries.map (·.1)).Nodup) :
    entriesAt entries.reverse key = entriesAt entries key := by
  rw [entriesAt, lookup_reverse nodup, entriesAt]

theorem entriesAt_eq_of_mem (nodup : (entries.map (·.1)).Nodup) {inner : List (String × Toml)}
    (member : (key, .table inner) ∈ entries) : entriesAt entries key = inner := by
  rw [entriesAt, (lookup_eq_some_iff nodup).mpr member]

theorem forall_mem_entriesAt (nodup : (entries.map (·.1)).Nodup) {kind : Toml → Prop}
    (each : ∀ value, (key, value) ∈ entries → value.IsTableOf kind) :
    ∀ entry ∈ entriesAt entries key, kind entry.2 := by
  unfold entriesAt
  split
  · rename_i inner found
    obtain ⟨_, ⟨⟩, all⟩ := each _ ((lookup_eq_some_iff nodup).mp found)
    exact all
  · exact List.forall_mem_nil _

theorem Distinct.entriesAt (distinct : (Toml.table entries).Distinct) :
    (Toml.table (entriesAt entries key)).Distinct := by
  unfold Toml.entriesAt
  split
  · rename_i inner found
    exact distinct.2.of_mem ((lookup_eq_some_iff distinct.1).mp found)
  · exact ⟨List.nodup_nil, trivial⟩

theorem Distinct.of_mem_entriesAt (distinct : (Toml.table entries).Distinct)
    {entry : String × Toml} (member : entry ∈ Toml.entriesAt entries key) : entry.2.Distinct :=
  distinctEntries_iff.mp distinct.entriesAt.2 entry member

theorem IsTableOf.imp {kind other : Toml → Prop} (isTable : value.IsTableOf kind)
    (each : ∀ value, kind value → other value) : value.IsTableOf other := by
  obtain ⟨entries, rfl, kinds⟩ := isTable
  exact ⟨entries, rfl, fun entry member => each _ (kinds entry member)⟩

theorem IsNetwork.imp {isProc isOther : Toml → Prop} (isNetwork : IsNetwork isProc entries)
    (nodup : (entries.map (·.1)).Nodup)
    (each : ∀ proc ∈ entriesAt entries "procs", isProc proc.2 → isOther proc.2) :
    IsNetwork isOther entries := by
  rintro ⟨key, value⟩ member
  rcases isNetwork _ member with ⟨rfl, inner, rfl, procs⟩ | presets
  · rw [entriesAt_eq_of_mem nodup member] at each
    exact .inl ⟨rfl, inner, rfl, fun proc listed => each proc listed (procs proc listed)⟩
  · exact .inr presets

/-! ## What the grammar asks of procs holds no dates and times -/

theorem IsScalar.isPlain (scalar : value.IsScalar) : value.IsPlain := by
  cases value <;> first | rfl | exact scalar.elim

theorem isPlain_array {items : List Toml} (each : ∀ item ∈ items, item.IsPlain) :
    (array items).IsPlain := by
  have same : plainItems items = items := by
    induction items with
    | nil => rfl
    | cons item rest inductionHypothesis =>
        obtain ⟨here, others⟩ := List.forall_mem_cons.mp each
        rw [plainItems, here, inductionHypothesis others]
  rw [IsPlain, plain, same]

theorem isPlain_table (each : ∀ entry ∈ entries, entry.2.IsPlain) : (table entries).IsPlain := by
  have same : plainEntries entries = entries := by
    induction entries with
    | nil => rfl
    | cons entry rest inductionHypothesis =>
        obtain ⟨here, others⟩ := List.forall_mem_cons.mp each
        rw [plainEntries, here, inductionHypothesis others]
  rw [IsPlain, plain, same]

theorem IsLiteral.isPlain (isLiteral : value.IsLiteral) : value.IsPlain := by
  rcases isLiteral with scalar | ⟨items, rfl, each⟩
  · exact scalar.isPlain
  · exact isPlain_array fun item member => (each item member).isPlain

theorem IsText.isPlain (isText : value.IsText) : value.IsPlain := by
  obtain ⟨text, rfl⟩ := isText
  rfl

theorem IsCount.isPlain (isCount : value.IsCount) : value.IsPlain := by
  obtain ⟨n, rfl, -⟩ := isCount
  rfl

theorem IsTableOf.isPlain (isTable : value.IsTableOf IsPlain) : value.IsPlain := by
  obtain ⟨entries, rfl, each⟩ := isTable
  exact isPlain_table each

theorem IsProcField.isPlain (isField : IsProcField key value) : value.IsPlain := by
  rcases isField with ⟨-, text⟩ | ⟨-, arguments⟩ | ⟨-, inputs⟩ | ⟨-, count⟩
  · exact text.isPlain
  · exact (arguments.imp fun _ => IsLiteral.isPlain).isPlain
  · exact (inputs.imp fun _ => IsText.isPlain).isPlain
  · exact count.isPlain

theorem IsProc.isPlain (isProc : value.IsProc) : value.IsPlain := by
  obtain ⟨fields, rfl, each, -⟩ := isProc
  exact isPlain_table fun field member => (each field member).isPlain

end SignalNet.Toml
