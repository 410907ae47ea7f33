import SignalNet.Proofs.Schema.Assignments
import SignalNet.Proofs.Schema.Entries

/-!
Contract: reading accepts the networks of the grammar, and what a network is read as.

The crux is the entry of a proc, whose fields are folded into a record: what the fold has
seen, with the last field first, is what the record holds. Since keys are distinct, that
is what stands under each key.

Dates and times have no literal form, and a preset that holds one is refused. Inside of
an entry of a proc their texts stand in their place before the entry is read, so there
they pass as texts. And a proc may be written as the list of all its fields. The law says
which tables are accepted with these, and that without them reading and grammar agree.

Owns: the table that a proc is read from (`Toml.asProc`), what a template shows of a table
(`Template.Shows`), the law of reading for each kind of entry, and the law for whole networks.
-/

set_option autoImplicit false

namespace SignalNet

/-! ## The table that a proc is read from -/

namespace Toml

/-- A proc with texts in the place of dates and times, and as a table, if it is a list of all
fields. -/
def asProc (value : Toml) : Toml := value.plain.tabled ProcEntry.layout.keys

theorem Distinct.asProc {value : Toml} (distinct : value.Distinct) : value.asProc.Distinct :=
  distinct.plain.tabled (by decide)

theorem asProc_of_isPlain {value : Toml} (plain : value.IsPlain) (isTable : value.kind = .table) :
    value.asProc = value := by
  rw [Toml.asProc, plain]
  cases value <;> first | rfl | cases isTable

theorem IsProc.kind_eq {value : Toml} (isProc : value.IsProc) : value.kind = .table := by
  obtain ⟨fields, rfl, -⟩ := isProc
  rfl

end Toml

/-! ## What a template shows of a table -/

def InputSpec.Shows (input : InputSpec) (entry : String × Toml) : Prop :=
  entry = (input.var, .string input.source)

def Toml.IsCountOf (value : Toml) (count : Nat) : Prop :=
  ∃ n : Int64, value = .integer n ∧ n.toInt = count

/-- What a proc shows of its fields. -/
structure ProcSpec.ShowsFields (spec : ProcSpec) (fields : List (String × Toml)) : Prop where
  className : Toml.lookup fields "class" = some (.string spec.className)
  arguments : spec.arguments.Shows (Toml.entriesAt fields "args")
  inputs : List.Forall₂ (fun entry input => input.Shows entry) (Toml.entriesAt fields "in")
    spec.inputs
  preset : Toml.lookup fields "preset" = spec.preset.map .string
  polyCount : Option.Rel Toml.IsCountOf (Toml.lookup fields "poly_cnt") spec.polyCount
  device : Toml.lookup fields "device" = spec.device.map .string

/-- What a proc shows of its entry, where dates and times are given by their texts. -/
def ProcSpec.Shows (spec : ProcSpec) (entry : String × Toml) : Prop :=
  spec.label = entry.1 ∧ ∃ fields, entry.2.asProc = .table fields ∧ spec.ShowsFields fields

inductive PresetEntry.Shows : Toml → PresetEntry → Prop
  | named (text : String) : PresetEntry.Shows (.string text) (.named text)
  | inline {entries : List (String × Toml)} {body : Assignments} (shows : body.Shows entries) :
      PresetEntry.Shows (.table entries) (.inline body)

def NetworkPreset.Shows (preset : NetworkPreset) (entry : String × Toml) : Prop :=
  preset.label = entry.1 ∧ ∃ entries, entry.2 = .table entries ∧
    List.Forall₂ (fun entry shown => shown.1 = entry.1 ∧ PresetEntry.Shows entry.2 shown.2)
      entries preset.entries

/-- A template shows the procs and the presets of a table one to one and in order. -/
structure Template.Shows (template : Template) (entries : List (String × Toml)) : Prop where
  procs : List.Forall₂ (fun entry spec => spec.Shows entry) (Toml.entriesAt entries "procs")
    template.procs
  presets : List.Forall₂ (fun entry preset => preset.Shows entry)
    (Toml.entriesAt entries "presets") template.presets

/-- No list stands inside of a list, in arguments or in presets. -/
structure Template.IsFlat (template : Template) : Prop where
  procs : ∀ spec ∈ template.procs, spec.arguments.IsFlat
  presets : ∀ preset ∈ template.presets, ∀ proc body, (proc, .inline body) ∈ preset.entries →
    body.IsFlat

/-! ## Procs -/

namespace Entry

theorem readText_eq_ok {value : Toml} {text : String} :
    readText value = .ok text ↔ value = .string text := by
  cases value <;> simp [readText, refuse]

theorem readTable_eq_ok {value : Toml} {entries : List (String × Toml)} :
    readTable value = .ok entries ↔ value = .table entries := by
  cases value <;> simp [readTable, entries?, refuse]

theorem readCount_eq_ok {value : Toml} {count : Nat} :
    readCount value = .ok count ↔ value.IsCountOf count := by
  cases value with
  | integer n =>
      rw [readCount, Toml.IsCountOf]
      split
      · rename_i negative
        have below : n.toInt < 0 := Int64.lt_iff_toInt_lt.mp negative
        constructor
        · rintro ⟨⟩
        · rintro ⟨_, ⟨⟩, same⟩
          omega
      · rename_i notNegative
        have above : ¬ n.toInt < 0 := fun below => notNegative (Int64.lt_iff_toInt_lt.mpr below)
        have counted : (n.toNatClampNeg : Int) = n.toInt :=
          Int.toNat_of_nonneg (Int.not_lt.mp above)
        constructor
        · rintro ⟨⟩
          exact ⟨n, rfl, counted.symm⟩
        · rintro ⟨_, ⟨⟩, same⟩
          exact congrArg Except.ok (Int.natCast_inj.mp (counted.trans same))
  | _ => simp [readCount, refuse, Toml.IsCountOf]

end Entry

theorem Toml.isCount_iff {value : Toml} : value.IsCount ↔ ∃ count, value.IsCountOf count := by
  constructor
  · rintro ⟨n, rfl, nonneg⟩
    have above : 0 ≤ n.toInt := Int64.le_iff_toInt_le.mp nonneg
    exact ⟨n.toInt.toNat, n, rfl, (Int.toNat_of_nonneg above).symm⟩
  · rintro ⟨count, n, rfl, same⟩
    have above : 0 ≤ n.toInt := same ▸ Int.natCast_nonneg count
    exact ⟨n, rfl, Int64.le_iff_toInt_le.mpr above⟩

namespace ProcEntry

/-- What was read of a proc is what stands in its fields. -/
structure Holds (entry : ProcEntry) (fields : List (String × Toml)) : Prop where
  className : Toml.lookup fields "class" = entry.className.map .string
  arguments : Toml.entriesAt fields "args" = entry.arguments
  inputs : Toml.entriesAt fields "in" = entry.inputs
  preset : Toml.lookup fields "preset" = entry.preset.map .string
  polyCount : Option.Rel Toml.IsCountOf (Toml.lookup fields "poly_cnt") entry.polyCount
  device : Toml.lookup fields "device" = entry.device.map .string

theorem holds_blank : Holds ⟨none, [], [], none, none, none⟩ [] :=
  ⟨rfl, rfl, rfl, rfl, .none, rfl⟩

/-- What one field of a proc makes of what was read before. -/
inductive Takes (before : ProcEntry) : String → Toml → ProcEntry → Prop
  | className (text : String) :
      Takes before "class" (.string text) { before with className := some text }
  | arguments (table : List (String × Toml)) :
      Takes before "args" (.table table) { before with arguments := table }
  | inputs (table : List (String × Toml)) :
      Takes before "in" (.table table) { before with inputs := table }
  | preset (text : String) :
      Takes before "preset" (.string text) { before with preset := some text }
  | polyCount {value : Toml} {count : Nat} (counted : value.IsCountOf count) :
      Takes before "poly_cnt" value { before with polyCount := some count }
  | device (text : String) :
      Takes before "device" (.string text) { before with device := some text }

theorem field_eq_ok {before after : ProcEntry} {key : String} {value : Toml} :
    before.field key value = .ok after ↔ before.Takes key value after := by
  constructor
  · intro read
    unfold ProcEntry.field at read
    -- One case for each name of a field; another name is refused.
    split at read
    · obtain ⟨text, isText, rfl⟩ := map_eq_ok.mp read
      exact Entry.readText_eq_ok.mp isText ▸ .className text
    · obtain ⟨table, isTable, rfl⟩ := map_eq_ok.mp read
      exact Entry.readTable_eq_ok.mp isTable ▸ .arguments table
    · obtain ⟨table, isTable, rfl⟩ := map_eq_ok.mp read
      exact Entry.readTable_eq_ok.mp isTable ▸ .inputs table
    · obtain ⟨text, isText, rfl⟩ := map_eq_ok.mp read
      exact Entry.readText_eq_ok.mp isText ▸ .preset text
    · obtain ⟨count, isCount, rfl⟩ := map_eq_ok.mp read
      exact .polyCount (Entry.readCount_eq_ok.mp isCount)
    · obtain ⟨text, isText, rfl⟩ := map_eq_ok.mp read
      exact Entry.readText_eq_ok.mp isText ▸ .device text
    · cases read
  · intro taken
    cases taken with
    | polyCount counted => exact map_eq_ok.mpr ⟨_, Entry.readCount_eq_ok.mpr counted, rfl⟩
    | _ => rfl

/-- One more field goes into its own place and leaves the others. -/
theorem Holds.take {before after : ProcEntry} {fields : List (String × Toml)} {key : String}
    {value : Toml} (holds : before.Holds fields) (taken : before.Takes key value after) :
    after.Holds ((key, value) :: fields) := by
  obtain ⟨className, arguments, inputs, preset, polyCount, device⟩ := holds
  cases taken <;> constructor <;>
    simp [Toml.lookup_cons, Toml.entriesAt_cons_of_ne, Toml.entriesAt_cons_table, *]

/-- The fields are read in turn, and this is what was read. -/
def ReadFrom (entry : ProcEntry) (fields : List (String × Toml)) : Prop :=
  fields.foldlM (fun before field => ProcEntry.field before field.1 field.2)
    ⟨none, [], [], none, none, none⟩ = .ok entry

theorem ReadFrom.holds {fields : List (String × Toml)} {entry : ProcEntry}
    (read : entry.ReadFrom fields) (nodup : (fields.map (·.1)).Nodup) : entry.Holds fields := by
  -- The last of two fields with one key would count, and a look-up finds the first.
  have collected : entry.Holds (fields.reverse.flatMap (fun field => [field]) ++ []) :=
    foldlM_collects (motive := fun collected before => Holds before collected)
      (fun _ _ _ _ _ holds step => holds.take (field_eq_ok.mp step)) holds_blank read
  rw [List.append_nil, List.flatMap_singleton'] at collected
  obtain ⟨className, arguments, inputs, preset, polyCount, device⟩ := collected
  rw [Toml.lookup_reverse nodup] at className preset polyCount device
  rw [Toml.entriesAt_reverse nodup] at arguments inputs
  exact ⟨className, arguments, inputs, preset, polyCount, device⟩

theorem exists_takes {key : String} {value : Toml} (isField : Toml.IsProcField key value)
    (before : ProcEntry) : ∃ after, before.Takes key value after := by
  rcases isField with ⟨isKey, text, rfl⟩ | ⟨rfl, table, rfl, -⟩ | ⟨rfl, table, rfl, -⟩ |
    ⟨rfl, isCount⟩
  · simp only [List.mem_cons, List.not_mem_nil, or_false] at isKey
    rcases isKey with rfl | rfl | rfl
    · exact ⟨_, .className text⟩
    · exact ⟨_, .preset text⟩
    · exact ⟨_, .device text⟩
  · exact ⟨_, .arguments table⟩
  · exact ⟨_, .inputs table⟩
  · obtain ⟨count, counted⟩ := Toml.isCount_iff.mp isCount
    exact ⟨_, .polyCount counted⟩

theorem exists_readFrom {fields : List (String × Toml)}
    (each : ∀ field ∈ fields, Toml.IsProcField field.1 field.2) :
    ∃ entry : ProcEntry, entry.ReadFrom fields := by
  refine exists_foldlM_eq_ok (fun field member before => ?_) _
  obtain ⟨after, taken⟩ := exists_takes (each field member) before
  exact ⟨after, field_eq_ok.mpr taken⟩

/-- A field that was read is one of the grammar, if arguments and inputs are. -/
theorem Takes.isProcField {before after : ProcEntry} {key : String} {value : Toml}
    (taken : before.Takes key value after)
    (arguments : ∀ inner, (key, value) = ("args", .table inner) →
      ∀ entry ∈ inner, entry.2.IsLiteral)
    (inputs : ∀ inner, (key, value) = ("in", .table inner) → ∀ entry ∈ inner, entry.2.IsText) :
    Toml.IsProcField key value := by
  cases taken with
  | className text => exact .inl ⟨by decide, text, rfl⟩
  | arguments table => exact .inr (.inl ⟨rfl, table, rfl, arguments table rfl⟩)
  | inputs table => exact .inr (.inr (.inl ⟨rfl, table, rfl, inputs table rfl⟩))
  | preset text => exact .inl ⟨by decide, text, rfl⟩
  | polyCount counted => exact .inr (.inr (.inr ⟨rfl, Toml.isCount_iff.mpr ⟨_, counted⟩⟩))
  | device text => exact .inl ⟨by decide, text, rfl⟩

/-- Of fields that could be read, the grammar asks what is checked behind the reading. -/
theorem ReadFrom.isProc_iff {fields : List (String × Toml)} {entry : ProcEntry}
    (read : entry.ReadFrom fields) (nodup : (fields.map (·.1)).Nodup) :
    (Toml.table fields).IsProc ↔ (∃ className, entry.className = some className) ∧
      (∀ argument ∈ entry.arguments, argument.2.IsLiteral) ∧
      ∀ input ∈ entry.inputs, input.2.IsText := by
  have holds := read.holds nodup
  constructor
  · rintro ⟨_, ⟨⟩, each, named⟩
    refine ⟨?_, ?_, ?_⟩
    · obtain ⟨value, found⟩ := Toml.lookup_isSome_of_mem named
      rw [holds.className, Option.map_eq_some_iff] at found
      obtain ⟨className, isNamed, -⟩ := found
      exact ⟨className, isNamed⟩
    · rw [← holds.arguments]
      exact Toml.forall_mem_entriesAt nodup fun value member =>
        Toml.isProcField_args.mp (each ("args", value) member)
    · rw [← holds.inputs]
      exact Toml.forall_mem_entriesAt nodup fun value member =>
        Toml.isProcField_in.mp (each ("in", value) member)
  · rintro ⟨⟨className, isNamed⟩, arguments, inputs⟩
    refine ⟨fields, rfl, ?_, ?_⟩
    · rintro ⟨key, value⟩ member
      obtain ⟨before, after, here⟩ := exists_of_mem_foldlM read member
      refine (field_eq_ok.mp here).isProcField ?_ ?_
      · rintro inner ⟨⟩
        rwa [← Toml.entriesAt_eq_of_mem nodup member, holds.arguments]
      · rintro inner ⟨⟩
        rwa [← Toml.entriesAt_eq_of_mem nodup member, holds.inputs]
    · have found := holds.className
      rw [isNamed, Option.map_some, Toml.lookup_eq_some_iff nodup] at found
      exact List.mem_map_of_mem found

theorem read_eq_ok {value : Toml} {className : String} {entry : ProcEntry} :
    ProcEntry.read value = .ok (className, entry) ↔
      ∃ fields, value.asProc = .table fields ∧ entry.ReadFrom fields ∧
        entry.className = some className := by
  rw [ProcEntry.read, bind_eq_ok]
  constructor
  · rintro ⟨found, fieldsRead, named⟩
    obtain ⟨fields, isTable, folded⟩ := (Entry.readFields_eq_ok rfl).mp fieldsRead
    split at named
    · rename_i isNamed
      cases named
      exact ⟨fields, isTable, folded, isNamed⟩
    · cases named
  · rintro ⟨fields, isTable, folded, isNamed⟩
    refine ⟨entry, (Entry.readFields_eq_ok rfl).mpr ⟨fields, isTable, folded⟩, ?_⟩
    simp only [isNamed]

end ProcEntry

theorem InputSpec.ofToml_eq_ok {context var : String} {value : Toml} {input : InputSpec} :
    InputSpec.ofToml context var value = .ok input ↔ input.Shows (var, value) := by
  obtain ⟨label, source⟩ := input
  cases value <;> simp [InputSpec.ofToml, InputSpec.Shows]

theorem InputSpec.exists_ofToml_iff {context var : String} {value : Toml} :
    (∃ input, InputSpec.ofToml context var value = .ok input) ↔ value.IsText := by
  simp only [InputSpec.ofToml_eq_ok, InputSpec.Shows, Prod.mk.injEq]
  constructor
  · rintro ⟨input, -, isText⟩
    exact ⟨_, isText⟩
  · rintro ⟨text, isText⟩
    exact ⟨⟨var, text⟩, rfl, isText⟩

namespace ProcSpec

variable {context label : String} {value : Toml} {spec : ProcSpec}

/-- Reading a proc is reading its fields, then its arguments, then its inputs. -/
theorem ofToml_eq_ok :
    ProcSpec.ofToml context label value = .ok spec ↔
      ∃ fields entry, value.asProc = .table fields ∧ ProcEntry.ReadFrom entry fields ∧
        entry.className = some spec.className ∧
        Assignments.ofToml (below context "args") entry.arguments = .ok spec.arguments ∧
        (entry.inputs.mapM fun (var, source) =>
          InputSpec.ofToml (below context "in") var source) = .ok spec.inputs ∧
        spec.label = label ∧ spec.preset = entry.preset ∧ spec.polyCount = entry.polyCount ∧
        spec.device = entry.device := by
  constructor
  · intro read
    obtain ⟨⟨className, entry⟩, entryRead, read⟩ := bind_eq_ok.mp read
    obtain ⟨arguments, argumentsRead, read⟩ := bind_eq_ok.mp read
    obtain ⟨inputs, inputsRead, read⟩ := bind_eq_ok.mp read
    cases pure_eq_ok.mp read
    obtain ⟨fields, isTable, folded, named⟩ :=
      ProcEntry.read_eq_ok.mp (mapError_eq_ok.mp entryRead)
    exact ⟨fields, entry, isTable, folded, named, argumentsRead, inputsRead, rfl, rfl, rfl, rfl⟩
  · obtain ⟨label, className, arguments, inputs, preset, polyCount, device⟩ := spec
    rintro ⟨fields, entry, isTable, folded, named, argumentsRead, inputsRead, rfl, rfl, rfl, rfl⟩
    refine bind_eq_ok.mpr ⟨(className, entry),
      mapError_eq_ok.mpr (ProcEntry.read_eq_ok.mpr ⟨fields, isTable, folded, named⟩), ?_⟩
    refine bind_eq_ok.mpr ⟨arguments, argumentsRead, ?_⟩
    exact bind_eq_ok.mpr ⟨inputs, inputsRead, rfl⟩

theorem shows_of_ofToml (distinct : value.Distinct)
    (read : ProcSpec.ofToml context label value = .ok spec) : spec.Shows (label, value) := by
  obtain ⟨fields, entry, isTable, folded, named, argumentsRead, inputsRead, isLabel, isPreset,
    isCount, isDevice⟩ := ofToml_eq_ok.mp read
  have inputsShown := (mapM_eq_ok.mp inputsRead).imp fun _ _ => InputSpec.ofToml_eq_ok.mp
  have fieldsDistinct : (Toml.table fields).Distinct := isTable ▸ distinct.asProc
  have holds := folded.holds fieldsDistinct.1
  refine ⟨isLabel, fields, isTable, ?_⟩
  exact {
    className := by rw [holds.className, named, Option.map_some]
    arguments := Assignments.shows_of_ofToml fieldsDistinct.entriesAt.1
      (holds.arguments.symm ▸ argumentsRead)
    inputs := holds.inputs.symm ▸ inputsShown
    preset := isPreset ▸ holds.preset
    polyCount := isCount ▸ holds.polyCount
    device := isDevice ▸ holds.device }

theorem exists_ofToml_iff (distinct : value.Distinct) :
    (∃ spec, ProcSpec.ofToml context label value = .ok spec) ↔ value.asProc.IsProc := by
  have texts : ∀ inputs : List (String × Toml),
      (∃ specs, (inputs.mapM fun (var, source) =>
        InputSpec.ofToml (below context "in") var source) = .ok specs) ↔
      ∀ input ∈ inputs, input.2.IsText := by
    intro inputs
    rw [exists_mapM_iff]
    exact forall₂_congr fun _ _ => InputSpec.exists_ofToml_iff
  constructor
  · rintro ⟨spec, read⟩
    obtain ⟨fields, entry, isTable, folded, named, argumentsRead, inputsRead, -⟩ :=
      ofToml_eq_ok.mp read
    have fieldsDistinct : (Toml.table fields).Distinct := isTable ▸ distinct.asProc
    rw [isTable, folded.isProc_iff fieldsDistinct.1]
    exact ⟨⟨_, named⟩, Assignments.exists_ofToml_iff.mp ⟨_, argumentsRead⟩,
      (texts _).mp ⟨_, inputsRead⟩⟩
  · intro isProc
    have ⟨fields, isTable, each, _⟩ := isProc
    have fieldsDistinct : (Toml.table fields).Distinct := isTable ▸ distinct.asProc
    obtain ⟨entry, folded⟩ := ProcEntry.exists_readFrom each
    rw [isTable, folded.isProc_iff fieldsDistinct.1] at isProc
    obtain ⟨⟨className, named⟩, areLiterals, areTexts⟩ := isProc
    have read : ∃ body, Assignments.ofToml (below context "args") entry.arguments = .ok body :=
      Assignments.exists_ofToml_iff.mpr areLiterals
    obtain ⟨arguments, argumentsRead⟩ := read
    obtain ⟨inputs, inputsRead⟩ := (texts _).mpr areTexts
    exact ⟨⟨label, className, arguments, inputs, entry.preset, entry.polyCount, entry.device⟩,
      ofToml_eq_ok.mpr ⟨fields, entry, isTable, folded, named, argumentsRead, inputsRead, rfl,
        rfl, rfl, rfl⟩⟩

end ProcSpec

/-! ## Presets -/

section

variable {context label : String} {value : Toml}

theorem PresetEntry.shows_of_ofToml {entry : PresetEntry} (distinct : value.Distinct)
    (read : PresetEntry.ofToml context value = .ok entry) : PresetEntry.Shows value entry := by
  cases value with
  | string text =>
      cases read
      exact .named text
  | table entries =>
      obtain ⟨body, bodyRead, rfl⟩ := map_eq_ok.mp read
      exact .inline (Assignments.shows_of_ofToml distinct.1 bodyRead)
  | _ => cases read

theorem PresetEntry.exists_ofToml_iff :
    (∃ entry, PresetEntry.ofToml context value = .ok entry) ↔ value.IsPresetEntry := by
  cases value with
  | string text => exact iff_of_true ⟨_, rfl⟩ (.inl ⟨text, rfl⟩)
  | table entries =>
      have body : (∃ body, Assignments.ofToml context entries = .ok body) ↔
          ∀ entry ∈ entries, entry.2.IsLiteral := Assignments.exists_ofToml_iff
      simp [PresetEntry.ofToml, map_eq_ok, Toml.IsPresetEntry, Toml.IsText, Toml.IsTableOf, body]
  | _ => simp [PresetEntry.ofToml, Toml.IsPresetEntry, Toml.IsText, Toml.IsTableOf]

theorem NetworkPreset.shows_of_ofToml {preset : NetworkPreset} (distinct : value.Distinct)
    (read : NetworkPreset.ofToml context label value = .ok preset) :
    preset.Shows (label, value) := by
  cases value with
  | table entries =>
      obtain ⟨shown, collected, rfl⟩ := map_eq_ok.mp read
      have related := (mapM_labelled_eq_ok
        (f := fun proc value => PresetEntry.ofToml (below context proc) value)).mp collected
      have each : ∀ entry ∈ entries, entry.2.Distinct := Toml.distinctEntries_iff.mp distinct.2
      refine ⟨rfl, entries, rfl, ((List.forall₂_and_left _ _).mpr ⟨each, related⟩).imp ?_⟩
      rintro entry shown ⟨entryDistinct, same, entryRead⟩
      exact ⟨same, PresetEntry.shows_of_ofToml entryDistinct entryRead⟩
  | _ => cases read

theorem NetworkPreset.exists_ofToml_iff :
    (∃ preset, NetworkPreset.ofToml context label value = .ok preset) ↔
      value.IsTableOf Toml.IsPresetEntry := by
  cases value with
  | table entries =>
      have each : ∀ entry ∈ entries,
          (∃ shown, PresetEntry.ofToml (below context entry.1) entry.2 = .ok shown) ↔
            entry.2.IsPresetEntry := fun _ _ => PresetEntry.exists_ofToml_iff
      simp only [Toml.IsTableOf, Toml.table.injEq, exists_eq_left', ← forall₂_congr each]
      exact exists_map_eq_ok.trans (exists_mapM_labelled_iff
        (f := fun proc value => PresetEntry.ofToml (below context proc) value))
  | _ => simp [NetworkPreset.ofToml, Toml.IsTableOf]

end

/-! ## Networks -/

section

variable {context key : String} {entries inner : List (String × Toml)}

theorem subTable_eq_ok :
    subTable context entries key = .ok inner ↔ Toml.entriesAt entries key = inner ∧
      ∀ value, Toml.lookup entries key = some value → value = .table inner := by
  unfold subTable Toml.entriesAt
  cases Toml.lookup entries key with
  | none => simp
  | some value => cases value <;> simp

/-- The table under a key is read exactly if it is a table of what can be read. -/
theorem exists_mapM_subTable_iff {α : Type} {f : String → Toml → Except SchemaError α}
    {kind : Toml → Prop} (nodup : (entries.map (·.1)).Nodup)
    (each : ∀ entry ∈ Toml.entriesAt entries key,
      (∃ result, f entry.1 entry.2 = .ok result) ↔ kind entry.2) :
    (∃ inner results, subTable context entries key = .ok inner ∧
        (inner.mapM fun (label, value) => f label value) = .ok results) ↔
      ∀ value, (key, value) ∈ entries → value.IsTableOf kind := by
  constructor
  · rintro ⟨inner, results, isTable, collected⟩ value member
    obtain ⟨rfl, tables⟩ := subTable_eq_ok.mp isTable
    refine ⟨_, tables value ((Toml.lookup_eq_some_iff nodup).mpr member), ?_⟩
    exact fun entry inEntries =>
      (each entry inEntries).mp (exists_mapM_iff.mp ⟨results, collected⟩ entry inEntries)
  · intro tables
    have kinds := Toml.forall_mem_entriesAt nodup tables
    have readable : ∀ entry ∈ Toml.entriesAt entries key,
        ∃ result, f entry.1 entry.2 = .ok result :=
      fun entry member => (each entry member).mpr (kinds entry member)
    obtain ⟨results, collected⟩ := exists_mapM_iff.mpr readable
    refine ⟨_, results, subTable_eq_ok.mpr ⟨rfl, fun value found => ?_⟩, collected⟩
    obtain ⟨_, rfl, -⟩ := tables value ((Toml.lookup_eq_some_iff nodup).mp found)
    rw [Toml.entriesAt, found]

end

namespace Template

variable {context : String} {entries : List (String × Toml)} {template : Template}

theorem ofToml_eq_ok :
    Template.ofToml context entries = .ok template ↔
      (∀ entry ∈ entries, entry.1 = "procs" ∨ entry.1 = "presets") ∧
      (∃ procs, subTable context entries "procs" = .ok procs ∧
        (procs.mapM fun (label, value) =>
          ProcSpec.ofToml (below (below context "procs") label) label value) =
            .ok template.procs) ∧
      ∃ presets, subTable context entries "presets" = .ok presets ∧
        (presets.mapM fun (label, value) =>
          NetworkPreset.ofToml (below (below context "presets") label) label value) =
            .ok template.presets := by
  have known : (entries.find? fun entry => entry.1 != "procs" && entry.1 != "presets") = none ↔
      ∀ entry ∈ entries, entry.1 = "procs" ∨ entry.1 = "presets" := by
    rw [List.find?_eq_none]
    refine forall₂_congr fun entry _ => ?_
    simp [or_iff_not_imp_left]
  rw [← known, Template.ofToml]
  split
  · rename_i key value unknown
    simp [unknown]
  · rename_i allKnown
    simp only [allKnown, true_and]
    constructor
    · intro read
      obtain ⟨procs, procsTable, read⟩ := bind_eq_ok.mp read
      obtain ⟨specs, specsRead, read⟩ := bind_eq_ok.mp read
      obtain ⟨presets, presetsTable, read⟩ := bind_eq_ok.mp read
      obtain ⟨shown, shownRead, read⟩ := bind_eq_ok.mp read
      cases pure_eq_ok.mp read
      exact ⟨⟨procs, procsTable, specsRead⟩, presets, presetsTable, shownRead⟩
    · rintro ⟨⟨procs, procsTable, specsRead⟩, presets, presetsTable, shownRead⟩
      refine bind_eq_ok.mpr ⟨procs, procsTable, ?_⟩
      refine bind_eq_ok.mpr ⟨template.procs, specsRead, ?_⟩
      refine bind_eq_ok.mpr ⟨presets, presetsTable, ?_⟩
      exact bind_eq_ok.mpr ⟨template.presets, shownRead, rfl⟩

/-- Dates and times inside of procs apart, and procs that are lists, the networks that are read are
those of the grammar. -/
theorem exists_ofToml_iff (distinct : (Toml.table entries).Distinct) :
    (∃ template, Template.ofToml context entries = .ok template) ↔
      Toml.IsNetwork (fun proc => proc.asProc.IsProc) entries := by
  have procs : (∃ inner specs, subTable context entries "procs" = .ok inner ∧
      (inner.mapM fun (label, value) =>
        ProcSpec.ofToml (below (below context "procs") label) label value) = .ok specs) ↔
      ∀ value, ("procs", value) ∈ entries → value.IsTableOf fun proc => proc.asProc.IsProc :=
    exists_mapM_subTable_iff distinct.1
      (f := fun label value => ProcSpec.ofToml (below (below context "procs") label) label value)
      fun _ member => ProcSpec.exists_ofToml_iff (distinct.of_mem_entriesAt member)
  have presets : (∃ inner shown, subTable context entries "presets" = .ok inner ∧
      (inner.mapM fun (label, value) =>
        NetworkPreset.ofToml (below (below context "presets") label) label value) = .ok shown) ↔
      ∀ value, ("presets", value) ∈ entries →
        value.IsTableOf (Toml.IsTableOf Toml.IsPresetEntry) :=
    exists_mapM_subTable_iff distinct.1
      (f := fun label value => NetworkPreset.ofToml (below (below context "presets") label) label
        value)
      fun _ _ => NetworkPreset.exists_ofToml_iff
  constructor
  · rintro ⟨template, read⟩ ⟨key, value⟩ member
    obtain ⟨known, ⟨_, procsTable, specsRead⟩, _, presetsTable, shownRead⟩ := ofToml_eq_ok.mp read
    rcases known _ member with rfl | rfl
    · exact Toml.isNetworkField_procs.mpr (procs.mp ⟨_, _, procsTable, specsRead⟩ value member)
    · exact Toml.isNetworkField_presets.mpr
        (presets.mp ⟨_, _, presetsTable, shownRead⟩ value member)
  · intro isNetwork
    obtain ⟨_, specs, procsTable, specsRead⟩ := procs.mpr fun value member =>
      Toml.isNetworkField_procs.mp (isNetwork ("procs", value) member)
    obtain ⟨_, shown, presetsTable, shownRead⟩ := presets.mpr fun value member =>
      Toml.isNetworkField_presets.mp (isNetwork ("presets", value) member)
    exact ⟨⟨specs, shown⟩, ofToml_eq_ok.mpr ⟨fun entry member => (isNetwork entry member).known,
      ⟨_, procsTable, specsRead⟩, _, presetsTable, shownRead⟩⟩

theorem shows_of_ofToml (distinct : (Toml.table entries).Distinct)
    (read : Template.ofToml context entries = .ok template) : template.Shows entries := by
  have each : ∀ key, ∀ entry ∈ Toml.entriesAt entries key, entry.2.Distinct :=
    fun _ _ => distinct.of_mem_entriesAt
  obtain ⟨-, ⟨procs, procsTable, specsRead⟩, presets, presetsTable, shownRead⟩ :=
    ofToml_eq_ok.mp read
  obtain ⟨rfl, -⟩ := subTable_eq_ok.mp procsTable
  obtain ⟨rfl, -⟩ := subTable_eq_ok.mp presetsTable
  constructor
  · exact ((List.forall₂_and_left _ _).mpr ⟨each _, mapM_eq_ok.mp specsRead⟩).imp
      fun entry spec here => ProcSpec.shows_of_ofToml here.1 here.2
  · exact ((List.forall₂_and_left _ _).mpr ⟨each _, mapM_eq_ok.mp shownRead⟩).imp
      fun entry preset here => NetworkPreset.shows_of_ofToml here.1 here.2

theorem Shows.isFlat (shows : template.Shows entries) : template.IsFlat := by
  constructor
  · intro spec member
    obtain ⟨_, -, -, _, -, shown⟩ := exists_of_mem_forall₂ shows.procs member
    exact shown.arguments.isFlat
  · intro preset member proc body listed
    obtain ⟨_, -, -, _, -, shown⟩ := exists_of_mem_forall₂ shows.presets member
    obtain ⟨⟨_, value⟩, -, -, here⟩ := exists_of_mem_forall₂ shown listed
    cases here with
    | inline bodyShown => exact bodyShown.isFlat

theorem Shows.nodup_labels (shows : template.Shows entries)
    (distinct : (Toml.table entries).Distinct) :
    (template.procs.map (·.label)).Nodup ∧ (template.presets.map (·.label)).Nodup := by
  rw [labels_eq_keys (fun _ _ shown => shown.1) shows.procs,
    labels_eq_keys (fun _ _ shown => shown.1) shows.presets]
  exact ⟨distinct.entriesAt.1, distinct.entriesAt.1⟩

/-- Reading accepts a table exactly if it is a network once the dates and times inside of its
procs are written as texts, and the procs that are lists of all fields as tables; among those
that have tables for procs and no dates and times there, exactly the networks of the grammar.
What is read shows the table one to one, without a label twice and without a list inside of a
list. -/
theorem read_by_grammar {context : String} {entries : List (String × Toml)}
    (distinct : (Toml.table entries).Distinct) :
    ((∃ template, Template.ofToml context entries = .ok template) ↔
      Toml.IsNetwork (fun proc => proc.asProc.IsProc) entries) ∧
    ((∃ template, Template.ofToml context entries = .ok template) ∧
        (∀ proc ∈ Toml.entriesAt entries "procs", proc.2.IsPlain ∧ proc.2.kind = .table) ↔
      Toml.IsNetwork Toml.IsProc entries) ∧
    ∀ template, Template.ofToml context entries = .ok template →
      template.Shows entries ∧ template.IsFlat ∧
      (template.procs.map (·.label)).Nodup ∧ (template.presets.map (·.label)).Nodup := by
  have accepted : (∃ template, Template.ofToml context entries = .ok template) ↔
      Toml.IsNetwork (fun proc => proc.asProc.IsProc) entries := exists_ofToml_iff distinct
  refine ⟨accepted, ⟨?_, ?_⟩, ?_⟩
  · rintro ⟨read, tables⟩
    refine (accepted.mp read).imp distinct.1 fun proc member isProc => ?_
    obtain ⟨plain, isTable⟩ := tables proc member
    rwa [Toml.asProc_of_isPlain plain isTable] at isProc
  · intro isNetwork
    have procs : ∀ proc ∈ Toml.entriesAt entries "procs", proc.2.IsProc :=
      Toml.forall_mem_entriesAt distinct.1 fun value member =>
        Toml.isNetworkField_procs.mp (isNetwork ("procs", value) member)
    refine ⟨accepted.mpr (isNetwork.imp distinct.1 fun proc _ isProc => ?_),
      fun proc member => ⟨(procs proc member).isPlain, (procs proc member).kind_eq⟩⟩
    rwa [Toml.asProc_of_isPlain isProc.isPlain isProc.kind_eq]
  · intro template read
    have shows := shows_of_ofToml distinct read
    exact ⟨shows, shows.isFlat, shows.nodup_labels distinct⟩

/-- A proc that is a list of all its fields. -/
example : (Template.ofToml "network" [("procs", .table [("p", .array [.string "number", .table [],
      .table [("value", .string "a.out")], .string "low", .integer 1, .string "dac"])])]).toOption =
    some ⟨[⟨"p", "number", .empty, [⟨"value", "a.out"⟩], some "low", some 1, some "dac"⟩], []⟩ :=
  rfl

end Template

/-- An oscillator that four voices listen to, with a preset for both. -/
def choirNetwork : List (String × Toml) :=
  [("procs", .table
      [("osc", .table [("class", .string "sine_tone"), ("preset", .string "low"),
          ("args", .table [("freq", .float 220), ("ch_cnt", .integer 2)])]),
       ("voice", .table [("class", .string "voice"), ("poly_cnt", .integer 4),
          ("args", .table [("gains", .array [.integer 1, .float 0.5])]),
          ("in", .table [("trig", .string "osc.out")]), ("device", .string "dac")])]),
   ("presets", .table
      [("bright", .table [("osc", .string "high"), ("voice", .table [("level", .float 0.8)])])])]

theorem choir_network_read :
    (Toml.table choirNetwork).Distinct ∧ Toml.IsNetwork Toml.IsProc choirNetwork ∧
    ∃ template, Template.ofToml "network" choirNetwork = .ok template ∧
      template.Shows choirNetwork ∧ template.IsFlat ∧
      (template.procs.map (·.label)).Nodup ∧ (template.presets.map (·.label)).Nodup := by
  have distinct : (Toml.table choirNetwork).Distinct := by decide
  have isNetwork : Toml.IsNetwork Toml.IsProc choirNetwork := by decide
  obtain ⟨-, grammar, shown⟩ := @Template.read_by_grammar "network" _ distinct
  obtain ⟨⟨template, read⟩, -⟩ := grammar.mpr isNetwork
  exact ⟨distinct, isNetwork, template, read, shown template read⟩

/-- A proc whose argument is a date. -/
def datedNetwork : List (String × Toml) :=
  [("procs", .table [("p", .table [("class", .string "number"),
      ("args", .table [("value", .datetime (.onlyDate ⟨1979, 5, 27⟩))])])])]

theorem dated_argument_read :
    (Toml.table datedNetwork).Distinct ∧
    (∃ template, Template.ofToml "network" datedNetwork = .ok template) ∧
    ¬ Toml.IsNetwork Toml.IsProc datedNetwork := by
  have distinct : (Toml.table datedNetwork).Distinct := by decide
  have isNetwork : Toml.IsNetwork (fun proc => proc.asProc.IsProc) datedNetwork := by decide
  exact ⟨distinct, (Template.exists_ofToml_iff distinct).mpr isNetwork, by decide⟩

end SignalNet
