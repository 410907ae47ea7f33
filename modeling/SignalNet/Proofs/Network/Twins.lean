import SignalNet.Proofs.Network.Relocation

/-!
Contract: the voices of a proc are alike when a network is built.

When they are made, two voices are copies of one proc, and their cells are equal. What is
written later comes from around them: the literals of the subnets that they are in, and the
presets that procs ask for. A variable of a subnet leads to all procs with one label, so it
leads to both voices in the same way, and each voice has the preset of the other. The cells are
therefore equal in the end.

Owns: `Proc.Twins`, the history of presets (`Build.cells_of_presets`), the invariant of building
(`Build.twinned_buildNested`), and the contents of a proc, which twins share (`Proc.content`).
-/

set_option autoImplicit false

namespace SignalNet

variable {P : Type}

/-! ## Twins -/

/-- Two procs are copies of one proc, apart from their own connections, and the cells of one
are equal to those of the other. -/
def Proc.Twins (store : Store P) (proc other : Proc P) : Prop :=
  ∃ (base : Proc P) (offset further : Nat) (renumbering otherNumbering : Equiv.Perm Nat),
    proc.withInputs [] = base.copy offset renumbering ∧
      other.withInputs [] = base.copy further otherNumbering ∧
        ∀ slot ∈ base.slots, store[offset + slot]? = store[further + slot]?

/-- On every level, procs with one label are twins. -/
def Level.Twinned (store : Store P) (level : Level P) : Prop :=
  ∀ inside, level.Within inside → ∀ proc ∈ inside.procs, ∀ other ∈ inside.procs,
    proc.label = other.label → proc.Twins store other

section

variable {store after : Store P} {proc other : Proc P} {level : Level P}

theorem Proc.terminals_withInputs (proc : Proc P) (inputs : List Connection) (var : Nat) :
    (proc.withInputs inputs).terminals var = proc.terminals var := by
  cases proc <;> simp only [withInputs, terminals]

theorem Proc.Mirrors.of_withInputs {inputs otherInputs : List Connection} {a b : Nat}
    (mirrors : (proc.withInputs inputs).Mirrors (other.withInputs otherInputs) a b) :
    proc.Mirrors other a b := by
  obtain ⟨sameClass, sameVars⟩ := mirrors
  rw [description_withInputs, description_withInputs] at sameClass
  refine ⟨sameClass, fun var => ?_⟩
  have same := sameVars var
  rwa [terminals_withInputs, terminals_withInputs] at same

/-- Twins stay twins, if their cells stay equal in pairs. -/
theorem Proc.Twins.of_cells (twins : proc.Twins store other)
    (keeps : ∀ a ∈ proc.slots, ∀ b ∈ other.slots, proc.Mirrors other a b →
      store[a]? = store[b]? → after[a]? = after[b]?) : proc.Twins after other := by
  obtain ⟨base, offset, further, renumbering, otherNumbering, isCopy, isOther, same⟩ := twins
  refine ⟨base, offset, further, renumbering, otherNumbering, isCopy, isOther, ?_⟩
  intro slot inBase
  apply keeps
  · rw [← proc.slots_withInputs [], isCopy, slots_copy]
    exact List.mem_map_of_mem inBase
  · rw [← other.slots_withInputs [], isOther, slots_copy]
    exact List.mem_map_of_mem inBase
  · have mirrors := base.mirrors_copy offset renumbering further otherNumbering slot
    rw [← isCopy, ← isOther] at mirrors
    exact mirrors.of_withInputs
  · exact same slot inBase

theorem Proc.Twins.withInputs (twins : proc.Twins store other)
    (inputs otherInputs : List Connection) :
    (proc.withInputs inputs).Twins store (other.withInputs otherInputs) := by
  obtain ⟨base, offset, further, renumbering, otherNumbering, isCopy, isOther, same⟩ := twins
  refine ⟨base, offset, further, renumbering, otherNumbering, ?_, ?_, same⟩
  · rw [← isCopy]
    cases proc <;> rfl
  · rw [← isOther]
    cases other <;> rfl

theorem Proc.Twins.channelCount_eq (twins : proc.Twins store other) (var : Nat) :
    store.channelCount (proc.terminals var) = store.channelCount (other.terminals var) := by
  obtain ⟨base, offset, further, renumbering, otherNumbering, isCopy, isOther, same⟩ := twins
  rw [← proc.terminals_withInputs [], ← other.terminals_withInputs [], isCopy, isOther,
    terminals_copy, terminals_copy]
  cases leads : base.terminals var with
  | nil => rfl
  | cons terminal rest =>
      have inBase : terminal.slot ∈ base.slots :=
        slot_mem_of_terminal (leads ▸ List.mem_cons_self : terminal ∈ base.terminals var)
      simp only [Store.channelCount, Store.channels, List.map_cons, Store.bank?, Terminal.behind,
        same terminal.slot inBase]

end

/-! ## Literals from around -/

namespace Build

section

variable [Processor P] {store after : Store P} {level : Level P}

theorem twinned_writeSubnet {around : Proc P} (resolved : around.Resolved)
    (isSubnet : around.inner? = some level)
    (below : ∀ between, level.Within between → ∀ proc ∈ between.procs, proc.Resolved)
    (nodup : level.slots.Nodup) (twinned : level.Twinned store) {spec : ProcSpec}
    (completed : writeSubnet spec around store = .ok after) : level.Twinned after := by
  intro inside within proc member other alsoMember sameLabel
  refine (twinned inside within proc member other alsoMember sameLabel).of_cells
    fun a inProc b inOther mirrors same => ?_
  have mirrorsAround := Proc.mirrors_of_within resolved isSubnet below nodup within member
    alsoMember sameLabel inProc inOther mirrors
  exact (mirrored_writeSubnet mirrorsAround ⟨fun _ => rfl, same⟩ completed completed).same

/-! ## Presets at construction -/

/-- What a proc asks for when it is built: its preset, if there is one. -/
def Presetted (proc : Proc P) (spec : ProcSpec) (before next : Store P) : Prop :=
  match spec.preset with
  | none => next = before
  | some label => applyClassPreset proc label before = (next, .ok ())

theorem presetted_of_cons {proc : Proc P} {spec : ProcSpec} {rest : List (Proc P × ProcSpec)}
    (completed : applyConstructionPresets ((proc, spec) :: rest) store = .ok after) :
    ∃ next, Presetted proc spec store next ∧ applyConstructionPresets rest next = .ok after := by
  rw [applyConstructionPresets] at completed
  unfold Presetted
  cases asked : spec.preset with
  | none =>
      rw [asked] at completed
      exact ⟨store, rfl, completed⟩
  | some label =>
      simp only [asked] at completed
      rcases applied : applyClassPreset proc label store with ⟨next, fault | ⟨⟩⟩
      · rw [applied] at completed
        cases completed
      · rw [applied] at completed
        exact ⟨next, applied, completed⟩

theorem Presetted.written {proc : Proc P} {spec : ProcSpec} {before next : Store P}
    (presetted : Presetted proc spec before next) :
    Store.Written (fun terminal => terminal.slot ∈ proc.slots) before next := by
  unfold Presetted at presetted
  cases asked : spec.preset with
  | none =>
      rw [asked] at presetted
      exact presetted ▸ .refl
  | some label =>
      simp only [asked, applyClassPreset] at presetted
      cases found : proc.description.preset? label with
      | none =>
          rw [found] at presetted
          cases presetted
      | some body =>
          simp only [found, Prod.mk.injEq, Blend.applyBodies] at presetted
          have written := Blend.written_applyVariables proc [(some body, 1)]
            (Blend.mentionedLabels [(some body, 1)]) before
          rw [presetted.1] at written
          refine written.mono ?_
          rintro terminal ⟨named, -, var, -, leads⟩
          exact Proc.slot_mem_of_terminal leads

/-- Presets of other procs leave a cell alone. -/
theorem unchanged_of_presets {items : List (Proc P × ProcSpec)} {slot : Nat}
    (outside : ∀ item ∈ items, slot ∉ item.1.slots)
    (completed : applyConstructionPresets items store = .ok after) :
    after[slot]? = store[slot]? := by
  induction items generalizing store with
  | nil =>
      cases completed
      rfl
  | cons item rest inductionHypothesis =>
      obtain ⟨next, presetted, completed⟩ := presetted_of_cons completed
      rw [inductionHypothesis (fun other member => outside other (List.mem_cons_of_mem _ member))
        completed]
      exact presetted.written.unchanged fun terminal inside same =>
        outside item List.mem_cons_self (same ▸ inside)

/-- To the cells of a proc nothing happens but its own preset. -/
theorem cells_of_presets {items : List (Proc P × ProcSpec)}
    (nodup : (slotsOf (items.map (·.1))).Nodup)
    (completed : applyConstructionPresets items store = .ok after) {proc : Proc P}
    {spec : ProcSpec} (member : (proc, spec) ∈ items) :
    ∃ before next, Presetted proc spec before next ∧ before.shape = store.shape ∧
      ∀ slot ∈ proc.slots, before[slot]? = store[slot]? ∧ after[slot]? = next[slot]? := by
  induction items generalizing store with
  | nil => cases member
  | cons item rest inductionHypothesis =>
      obtain ⟨next, presetted, remaining⟩ := presetted_of_cons completed
      rw [List.map_cons, slotsOf, List.nodup_append] at nodup
      obtain ⟨-, restNodup, disjoint⟩ := nodup
      rcases List.mem_cons.mp member with rfl | inRest
      · refine ⟨store, next, presetted, rfl, fun slot inside => ⟨rfl, ?_⟩⟩
        refine unchanged_of_presets (fun other isOther inOther => ?_) remaining
        exact disjoint slot inside slot
          (mem_slotsOf.mpr ⟨other.1, List.mem_map_of_mem isOther, inOther⟩) rfl
      · obtain ⟨before, last, ownPreset, sameShape, cells⟩ :=
          inductionHypothesis restNodup remaining inRest
        refine ⟨before, last, ownPreset, sameShape.trans presetted.written.shape_eq,
          fun slot inside => ?_⟩
        obtain ⟨early, late⟩ := cells slot inside
        refine ⟨early.trans (presetted.written.unchanged fun terminal inItem same => ?_), late⟩
        exact disjoint slot (same ▸ inItem) slot
          (mem_slotsOf.mpr ⟨proc, List.mem_map_of_mem inRest, inside⟩) rfl

/-- Procs that ask for one preset keep two cells equal that they lead to in the same way. -/
theorem equal_of_presets {items : List (Proc P × ProcSpec)}
    (nodup : (slotsOf (items.map (·.1))).Nodup)
    (completed : applyConstructionPresets items store = .ok after) {proc other : Proc P}
    {spec otherSpec : ProcSpec} (member : (proc, spec) ∈ items)
    (alsoMember : (other, otherSpec) ∈ items) (samePreset : spec.preset = otherSpec.preset)
    {a b : Nat} (inProc : a ∈ proc.slots) (inOther : b ∈ other.slots)
    (mirrors : proc.Mirrors other a b) (mirrored : store.Mirrored store proc other a b) :
    after[a]? = after[b]? := by
  obtain ⟨before, next, presetted, sameShape, cells⟩ := cells_of_presets nodup completed member
  obtain ⟨otherBefore, otherNext, otherPresetted, otherShape, otherCells⟩ :=
    cells_of_presets nodup completed alsoMember
  have mirroredBefore : before.Mirrored otherBefore proc other a b := by
    refine ⟨fun var => ?_, ?_⟩
    · rw [Store.channelCount_congr sameShape, Store.channelCount_congr otherShape]
      exact mirrored.counts var
    · rw [(cells a inProc).1, (otherCells b inOther).1, mirrored.same]
  rw [(cells a inProc).2, (otherCells b inOther).2]
  unfold Presetted at presetted otherPresetted
  rw [← samePreset] at otherPresetted
  cases asked : spec.preset with
  | none =>
      rw [asked] at presetted otherPresetted
      rw [presetted, otherPresetted, mirroredBefore.same]
  | some label =>
      rw [asked] at presetted otherPresetted
      exact (mirrored_applyClassPreset mirrors mirroredBefore presetted otherPresetted).same

theorem twinned_applyConstructionPresets {items : List (Proc P × ProcSpec)}
    (isLevel : items.map (·.1) = level.procs) (nodup : level.slots.Nodup)
    (resolved : ∀ inside, level.Within inside → ∀ proc ∈ inside.procs, proc.Resolved)
    (samePresets : ∀ item ∈ items, ∀ other ∈ items, item.1.label = other.1.label →
      item.2.preset = other.2.preset)
    (twinned : level.Twinned store)
    (completed : applyConstructionPresets items store = .ok after) : level.Twinned after := by
  have itemsNodup : (slotsOf (items.map (·.1))).Nodup := isLevel ▸ nodup
  have exists_item {proc : Proc P} (member : proc ∈ level.procs) :
      ∃ spec, (proc, spec) ∈ items := by
    rw [← isLevel] at member
    obtain ⟨⟨_, spec⟩, isItem, rfl⟩ := List.mem_map.mp member
    exact ⟨spec, isItem⟩
  intro inside within proc member other alsoMember sameLabel
  have twins := twinned inside within proc member other alsoMember sameLabel
  refine twins.of_cells fun a inProc b inOther mirrors same => ?_
  cases within with
  | self =>
      obtain ⟨spec, isItem⟩ := exists_item member
      obtain ⟨otherSpec, alsoItem⟩ := exists_item alsoMember
      exact equal_of_presets itemsNodup completed isItem alsoItem
        (samePresets _ isItem _ alsoItem sameLabel) inProc inOther mirrors
        ⟨twins.channelCount_eq, same⟩
  | @inner _ around below _ isProc isSubnet deeper =>
      obtain ⟨spec, isItem⟩ := exists_item isProc
      have belowNodup : below.slots.Nodup :=
        ((Level.Within.inner isProc isSubnet (.self below)).slots_sublist).nodup nodup
      have mirrorsAround := Proc.mirrors_of_within (resolved level (.self level) around isProc)
        isSubnet (fun between further => resolved between (.inner isProc isSubnet further))
        belowNodup deeper member alsoMember sameLabel inProc inOther mirrors
      have inAround {slot : Nat} {held : Proc P} (isHeld : held ∈ inside.procs)
          (here : slot ∈ held.slots) : slot ∈ around.slots :=
        Proc.slot_mem_of_within isSubnet deeper isHeld here
      exact equal_of_presets itemsNodup completed isItem isItem rfl (inAround member inProc)
        (inAround alsoMember inOther) mirrorsAround ⟨fun _ => rfl, same⟩

end

/-! ## Creation -/

/-- A proc of a level is a created one with connections, and asks for the preset of its spec. -/
theorem exists_created_of_mem_zip {created : List (Proc P × ProcSpec)} {procs : List (Proc P)}
    (bound : bindInputs created = .ok procs) {proc : Proc P} {spec : ProcSpec}
    (member : (proc, spec) ∈ procs.zip (created.map (·.2))) :
    ∃ made inputs, (made, spec) ∈ created ∧ proc = made.withInputs inputs := by
  obtain ⟨-, each⟩ := bindInputs_spec bound
  obtain ⟨position, found⟩ := List.mem_iff_getElem?.mp member
  obtain ⟨isProc, isSpec⟩ := List.getElem?_zip_eq_some.mp found
  rw [List.getElem?_map, Option.map_eq_some_iff] at isSpec
  obtain ⟨⟨made, _⟩, wasCreated, rfl⟩ := isSpec
  obtain ⟨inputs, -, there⟩ := each position made _ wasCreated
  exact ⟨made, inputs, List.mem_of_getElem? wasCreated, Option.some.inj (isProc.symm.trans there)⟩

/-- All voices of a proc can be had from one of them by renumbering. -/
theorem exists_renumbering {description : ClassDescription P} {spec : ProcSpec}
    {around : Option Nat} {numbers : List (Option Nat)}
    (voiced : voices description spec around = .ok numbers) :
    ∃ first : Option Nat, ∀ number ∈ numbers, ∃ renumbering,
      Fits renumbering first ∧ first.map renumbering = number := by
  unfold voices at voiced
  split at voiced
  · cases voiced
    refine ⟨around, fun number isVoice => ⟨.refl Nat, fun _ => rfl, ?_⟩⟩
    rw [List.mem_singleton.mp isVoice, Equiv.coe_refl, Option.map_id, id]
  · split at voiced
    · cases voiced
    · split at voiced
      · cases voiced
      · cases voiced
        refine ⟨some 0, fun number isVoice => ?_⟩
        obtain ⟨voice, -, rfl⟩ := List.mem_map.mp isVoice
        have fits : Fits (Equiv.swap 0 voice) (some 0) := fun missing => nomatch missing
        exact ⟨_, fits, by rw [Option.map_some, Equiv.swap_apply_left]⟩

theorem Numbered.lt {store after : Store P} {slots : List Nat}
    (numbered : Numbered store slots after) {slot : Nat} (member : slot ∈ slots) :
    slot < after.length := by
  rw [← List.mem_range, numbered]
  exact List.mem_append_right _ member

theorem Numbered.nodup {store after : Store P} {slots : List Nat}
    (numbered : Numbered store slots after) : slots.Nodup := by
  have all : (List.range after.length).Nodup := List.nodup_range
  rw [numbered] at all
  exact (List.nodup_append.mp all).2.1

section

variable [Processor P] {environment : Environment P} {inner : LevelBuilder P}
  {store after : Store P}

/-- Behind some cells a proc is made as a copy of the one that is made without them. -/
theorem exists_base_of_createProc (relocates : Relocates inner) {spec : ProcSpec}
    {description : ClassDescription P} {first : Option Nat} {renumbering : Equiv.Perm Nat}
    (fits : Fits renumbering first) {proc : Proc P}
    (made : createProc environment inner spec description (first.map renumbering) store =
      .ok (proc, after)) :
    ∃ base own, createProc environment inner spec description first [] = .ok (base, own) ∧
      proc = base.copy store.length renumbering ∧ after = store ++ own := by
  rw [← List.append_nil store, createProc_copy relocates store [] spec description fits] at made
  obtain ⟨⟨base, own⟩, baseMade, isCopy⟩ := map_eq_ok.mp made
  cases isCopy
  exact ⟨base, own, baseMade, rfl, rfl⟩

theorem isPrefix_of_createProc (relocates : Relocates inner) {spec : ProcSpec}
    {description : ClassDescription P} {number : Option Nat} {proc : Proc P}
    (made : createProc environment inner spec description number store = .ok (proc, after)) :
    store <+: after := by
  have kept : number.map (Equiv.refl Nat) = number := by rw [Equiv.coe_refl, Option.map_id, id]
  rw [← kept] at made
  obtain ⟨base, own, -, -, rfl⟩ := exists_base_of_createProc relocates (fun _ => rfl) made
  exact List.prefix_append store own

theorem isPrefix_of_created (relocates : Relocates inner) {specs : List ProcSpec}
    {around : Option Nat} {created : List (Proc P × ProcSpec)}
    (made : Created environment inner specs around store created after) : store <+: after := by
  induction made with
  | nil store => exact List.prefix_refl store
  | cons _ _ _ _ made _ inductionHypothesis =>
      exact (isPrefix_of_createProc relocates made).trans inductionHypothesis

/-- Each created proc was made for a voice, and its cells were kept by what was made later. -/
theorem exists_voice_of_created (relocates : Relocates inner) {specs : List ProcSpec}
    {around : Option Nat} {created : List (Proc P × ProcSpec)}
    (made : Created environment inner specs around store created after) {proc : Proc P}
    {spec : ProcSpec} (member : (proc, spec) ∈ created) :
    ∃ description numbers number before next, spec ∈ specs ∧
      environment.classes.get? spec.className = some description ∧
        voices description spec around = .ok numbers ∧ number ∈ numbers ∧
          createProc environment inner spec description number before = .ok (proc, next) ∧
            next <+: after := by
  induction made with
  | nil store => cases member
  | cons listed known voiced isVoice made others inductionHypothesis =>
      rcases List.mem_cons.mp member with same | later
      · cases same
        exact ⟨_, _, _, _, _, listed, known, voiced, isVoice, made,
          isPrefix_of_created relocates others⟩
      · exact inductionHypothesis later

/-- Two voices of one spec are twins as soon as both are made. -/
theorem twins_of_created (relocates : Relocates inner) (numbers : NumbersCells inner)
    {specs : List ProcSpec} {around : Option Nat} {created : List (Proc P × ProcSpec)}
    (made : Created environment inner specs around store created after)
    {item other : Proc P × ProcSpec} (member : item ∈ created) (alsoMember : other ∈ created)
    (sameSpec : item.2 = other.2) : item.1.Twins after other.1 := by
  obtain ⟨proc, spec⟩ := item
  obtain ⟨otherProc, otherSpec⟩ := other
  obtain rfl : spec = otherSpec := sameSpec
  obtain ⟨description, voices, number, before, next, -, known, voiced, isVoice, creation, kept⟩ :=
    exists_voice_of_created relocates made member
  obtain ⟨_, _, otherNumber, otherBefore, otherNext, -, otherKnown, otherVoiced, otherIsVoice,
    otherCreation, otherKept⟩ := exists_voice_of_created relocates made alsoMember
  obtain rfl := Option.some.inj (known.symm.trans otherKnown)
  obtain rfl := Except.ok.inj (voiced.symm.trans otherVoiced)
  obtain ⟨first, each⟩ := exists_renumbering voiced
  obtain ⟨renumbering, fits, rfl⟩ := each number isVoice
  obtain ⟨otherNumbering, otherFits, rfl⟩ := each otherNumber otherIsVoice
  obtain ⟨base, own, baseMade, rfl, rfl⟩ := exists_base_of_createProc relocates fits creation
  obtain ⟨_, _, alsoMade, rfl, rfl⟩ := exists_base_of_createProc relocates otherFits otherCreation
  cases baseMade.symm.trans alsoMade
  refine ⟨base.withInputs [], before.length, otherBefore.length, renumbering, otherNumbering,
    Proc.copy_withInputs _ _ _ _, Proc.copy_withInputs _ _ _ _, fun slot inBase => ?_⟩
  rw [Proc.slots_withInputs] at inBase
  have below : slot < own.length := (numbered_createProc numbers baseMade).lt inBase
  obtain ⟨rest, rfl⟩ := kept
  obtain ⟨otherRest, same⟩ := otherKept
  rw [List.append_assoc, Store.getElem?_behind, List.getElem?_append_left below,
    ← List.append_assoc, ← same, List.append_assoc, Store.getElem?_behind,
    List.getElem?_append_left below]

/-- With distinct labels, procs with one label were created from one spec. -/
theorem spec_eq_of_label {template : Template} (distinct : duplicate? [] template.procs = none)
    {around : Option Nat} {created : List (Proc P × ProcSpec)}
    (made : Created environment inner template.procs around store created after)
    {item other : Proc P × ProcSpec} (member : item ∈ created) (alsoMember : other ∈ created)
    (sameLabel : item.1.label = other.1.label) : item.2 = other.2 := by
  obtain ⟨proc, spec⟩ := item
  obtain ⟨otherProc, otherSpec⟩ := other
  obtain ⟨description, number, before, next, listed, -, creation⟩ := made.of_mem member
  obtain ⟨_, _, _, _, alsoListed, -, otherCreation⟩ := made.of_mem alsoMember
  have labelled : proc.label = spec.label := congrArg (·.1) (origin_of_createProc creation)
  have otherLabelled : otherProc.label = otherSpec.label :=
    congrArg (·.1) (origin_of_createProc otherCreation)
  exact List.inj_on_of_nodup_map (nodup_of_duplicate? distinct).1 listed alsoListed
    (labelled.symm.trans (sameLabel.trans otherLabelled))

theorem resolved_of_buildNested {depth : Nat} {template : Template} {around : Option Nat}
    {exposed : List VarRef} {level inside : Level P}
    (built : buildNested environment depth template around exposed store = .ok (level, after))
    (within : level.Within inside) : ∀ proc ∈ inside.procs, proc.Resolved := by
  refine forall_within_of_buildNested (motive := fun level => ∀ proc ∈ level.procs, proc.Resolved)
    ?_ built within
  intro depth template around exposed store created middle level after assembled proc member
  cases proc with
  | native => trivial
  | subnet =>
      obtain ⟨spec, below, before, next, -, -, -, forwarded⟩ := assembled.subnet_of_mem member
      exact ⟨spec, forwarded⟩

/-- The level in a created subnet is twinned, if every level is when it is built. -/
theorem twinned_createProc {depth : Nat}
    (levels : ∀ template around exposed (store : Store P) level after,
      buildNested environment depth template around exposed store = .ok (level, after) →
        level.Twinned after)
    {spec : ProcSpec} {description : ClassDescription P} {number : Option Nat} {proc : Proc P}
    (made : createProc environment (buildNested environment depth) spec description number store =
      .ok (proc, after)) {below : Level P} (isSubnet : proc.inner? = some below) :
    below.Twinned after := by
  obtain ⟨template, middle, targets, device, -, levelBuilt, forwarded, rfl, literals⟩ :=
    level_of_createProc made isSubnet
  refine twinned_writeSubnet ?_ rfl (fun between => resolved_of_buildNested levelBuilt)
    (numbersCells_buildNested _ _ _ _ _ _ _ _ levelBuilt).nodup
    (levels _ _ _ _ _ _ levelBuilt) literals
  exact ⟨spec, forwarded⟩

/-- All procs of a level and of the levels in it are twins of those with the same label, as soon
as they are made. -/
theorem twinned_of_assembled {depth : Nat}
    (levels : ∀ template around exposed (store : Store P) level after,
      buildNested environment depth template around exposed store = .ok (level, after) →
        level.Twinned after)
    {template : Template} {around : Option Nat} {exposed : List VarRef} {middle : Store P}
    {created : List (Proc P × ProcSpec)} {level : Level P}
    (assembled : Assembled environment (buildNested environment depth) template around exposed
      store created middle level after) : level.Twinned middle := by
  have relocates := relocates_buildNested environment depth
  have numbers := numbersCells_buildNested environment depth
  intro inside within proc member other alsoMember sameLabel
  cases within with
  | self =>
      obtain ⟨item, wasCreated, inputs, rfl⟩ := exists_created_of_bindInputs assembled.bound member
      obtain ⟨otherItem, alsoCreated, otherInputs, rfl⟩ :=
        exists_created_of_bindInputs assembled.bound alsoMember
      rw [Proc.label_withInputs, Proc.label_withInputs] at sameLabel
      exact (twins_of_created relocates numbers assembled.made wasCreated alsoCreated
        (spec_eq_of_label assembled.distinct assembled.made wasCreated alsoCreated
          sameLabel)).withInputs inputs otherInputs
  | @inner _ around below _ isProc isSubnet deeper =>
      obtain ⟨⟨made, spec⟩, wasCreated, inputs, rfl⟩ :=
        exists_created_of_bindInputs assembled.bound isProc
      rw [Proc.inner?_withInputs] at isSubnet
      obtain ⟨description, voices, number, before, next, -, -, -, -, creation, rest, kept⟩ :=
        exists_voice_of_created relocates assembled.made wasCreated
      have twinned := twinned_createProc levels creation isSubnet
      have unchanged {held : Proc P} (isHeld : held ∈ inside.procs) {slot : Nat}
          (here : slot ∈ held.slots) : middle[slot]? = next[slot]? := by
        have inMade := Proc.slot_mem_of_within isSubnet deeper isHeld here
        rw [← kept, List.getElem?_append_left ((numbered_createProc numbers creation).lt inMade)]
      refine (twinned inside deeper proc member other alsoMember sameLabel).of_cells
        fun a inProc b inOther _ same => ?_
      rw [unchanged member inProc, unchanged alsoMember inOther, same]

/-- On every level of a built network, procs with one label are twins. -/
theorem twinned_buildNested (environment : Environment P) (depth : Nat) :
    ∀ template around exposed (store : Store P) level after,
      buildNested environment depth template around exposed store = .ok (level, after) →
        level.Twinned after := by
  induction depth with
  | zero =>
      intro template around exposed store level after built
      cases built
  | succ depth inductionHypothesis =>
      intro template around exposed store level after built
      obtain ⟨created, middle, assembled⟩ := assembled_of_buildLevel built
      have nodup : level.slots.Nodup :=
        (numbersCells_buildNested environment (depth + 1) _ _ _ _ _ _ built).nodup
      have sameLength : level.procs.length = created.length :=
        (bindInputs_spec assembled.bound).1
      have isLevel : (level.procs.zip (created.map (·.2))).map (·.1) = level.procs :=
        List.map_fst_zip (by rw [List.length_map, sameLength])
      refine twinned_applyConstructionPresets isLevel nodup
        (fun inside within => resolved_of_buildNested built within) ?_
        (twinned_of_assembled inductionHypothesis assembled) assembled.preset
      rintro ⟨proc, spec⟩ isItem ⟨other, otherSpec⟩ alsoItem sameLabel
      obtain ⟨made, inputs, wasCreated, rfl⟩ := exists_created_of_mem_zip assembled.bound isItem
      obtain ⟨otherMade, otherInputs, alsoCreated, rfl⟩ :=
        exists_created_of_mem_zip assembled.bound alsoItem
      rw [Proc.label_withInputs, Proc.label_withInputs] at sameLabel
      have same :=
        spec_eq_of_label assembled.distinct assembled.made wasCreated alsoCreated sameLabel
      exact congrArg ProcSpec.preset same

end

end Build

/-! ## Contents -/

/-- A proc with everything in it: cells stand where slots did, and voices have no numbers. -/
inductive Content (P : Type) where
  | native (head : ProcHead P) (cell : Option (Cell P))
  | subnet (head : ProcHead P) (inner : List (Content P)) (order : List Nat)
      (presets : List NetworkPreset) (forwards : List (List (Nat × Nat)))

mutual

def Proc.content (cells : Nat → Option (Cell P)) : Proc P → Content P
  | .native head slot => .native { head with replica := none } (cells slot)
  | .subnet head procs order presets forwards =>
      .subnet { head with replica := none } (contents cells procs) order presets forwards

def contents (cells : Nat → Option (Cell P)) : List (Proc P) → List (Content P)
  | [] => []
  | proc :: rest => proc.content cells :: contents cells rest

end

section

variable {cells others : Nat → Option (Cell P)}

theorem contents_eq_map (procs : List (Proc P)) :
    contents cells procs = procs.map (Proc.content cells) := by
  induction procs with
  | nil => rfl
  | cons proc rest inductionHypothesis => rw [contents, List.map_cons, inductionHypothesis]

theorem Proc.content_congr {proc : Proc P} (same : ∀ slot ∈ proc.slots, cells slot = others slot) :
    proc.content cells = proc.content others := by
  induction proc with
  | native head slot =>
      rw [content, content, same slot (List.mem_singleton_self slot)]
  | subnet head procs order presets forwards inductionHypothesis =>
      rw [content, content, contents_eq_map, contents_eq_map]
      congr 1
      refine List.map_congr_left fun inner member => inductionHypothesis inner member ?_
      intro slot inInner
      exact same slot (mem_slotsOf.mpr ⟨inner, member, inInner⟩)

theorem Proc.content_copy (proc : Proc P) (offset : Nat) (renumbering : Equiv.Perm Nat) :
    (proc.copy offset renumbering).content cells =
      proc.content fun slot => cells (offset + slot) := by
  induction proc with
  | native head slot => rfl
  | subnet head procs order presets forwards inductionHypothesis =>
      rw [copy, content, content, contents_eq_map, contents_eq_map, copiesOf_eq_map, List.map_map]
      congr 1
      exact List.map_congr_left inductionHypothesis

/-- Twins have the same contents. -/
theorem Proc.Twins.content_eq {store : Store P} {proc other : Proc P}
    (twins : proc.Twins store other) :
    (proc.withInputs []).content (store[·]?) = (other.withInputs []).content (store[·]?) := by
  obtain ⟨base, offset, further, renumbering, otherNumbering, isCopy, isOther, same⟩ := twins
  rw [isCopy, isOther, content_copy, content_copy]
  exact content_congr same

end

end SignalNet
