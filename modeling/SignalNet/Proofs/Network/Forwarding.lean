import SignalNet.Proofs.Network.Linkage
import SignalNet.Proofs.Schema.Inheritance

/-!
Contract: what the variables of a subnet forward to.

The schema resolves the target of a variable against descriptions, and building resolves it
against the procs of the inner level, where one description stands for several voices. The
two agree: the procs with the label of the target are the voices of the proc that the
template describes under that label, and all of them have the variable at one position.

Owns: the voices of a level (`origins_of_createProcs`), the addresses of a variable in all
voices (`Proc.Voices`), and the agreement (`forwards_agree`).
-/

set_option autoImplicit false

namespace SignalNet

variable {P : Type}

/-- What a proc was created from: its label, its voice and its class. -/
def Proc.origin (proc : Proc P) : String × Option Nat × ClassDescription P :=
  (proc.label, proc.head.replica, proc.description)

theorem Proc.origin_withInputs (proc : Proc P) (inputs : List Connection) :
    (proc.withInputs inputs).origin = proc.origin := by
  cases proc <;> rfl

/-- The addresses of one variable in all voices of the proc with a label: they are in the
order of creation, no proc with the label is left out, and there is one for each voice. All
voices are of one class, so the variable has the same position in each. -/
structure Proc.Voices (procs : List (Proc P)) (label : String) (numbers : List (Option Nat))
    (description : ClassDescription P) (index : Nat) (addresses : List (Nat × Nat)) : Prop where
  nonempty : addresses ≠ []
  increasing : (addresses.map (·.1)).Pairwise (· < ·)
  complete : ∀ position proc, procs[position]? = some proc → proc.label = label →
    (position, index) ∈ addresses
  each : List.Forall₂ (fun address number => address.2 = index ∧
    ∃ proc, procs[address.1]? = some proc ∧ proc.origin = (label, number, description))
      addresses numbers

theorem Proc.Voices.description_eq {procs : List (Proc P)} {label : String}
    {numbers : List (Option Nat)} {description : ClassDescription P} {index : Nat}
    {addresses : List (Nat × Nat)}
    (voices : Proc.Voices procs label numbers description index addresses) {position : Nat}
    {proc : Proc P} (there : procs[position]? = some proc) (labelled : proc.label = label) :
    proc.description = description := by
  have isAddress := voices.complete position proc there labelled
  obtain ⟨number, -, -, voice, isVoice, isOrigin⟩ :=
    exists_of_mem_forall₂ voices.each.flip isAddress
  obtain rfl := Option.some.inj (there.symm.trans isVoice)
  exact congrArg (·.2.2) isOrigin

/-- A variable of a subnet forwards to all voices of the proc that its target names, at the
position that the target has in the class of that proc, and with its own type. -/
def Declaration.ForwardsTo (classes : ClassSet P) (template : Template) (around : Option Nat)
    (procs : List (Proc P)) (declaration : Declaration) (addresses : List (Nat × Nat)) : Prop :=
  ∃ target spec inner index found numbers,
    declaration.target = some target ∧ template.proc? target.proc = some spec ∧
      classes.get? spec.className = some inner ∧
        inner.variableIndex? target.var = some index ∧ inner.vars[index]? = some found ∧
          found.declared = declaration.declared ∧ Build.voices inner spec around = .ok numbers ∧
            Proc.Voices procs target.proc numbers inner index addresses

namespace Build

/-! ## The voices of a level -/

theorem voices_ne_nil {description : ClassDescription P} {spec : ProcSpec} {around : Option Nat}
    {numbers : List (Option Nat)} (voiced : voices description spec around = .ok numbers) :
    numbers ≠ [] := by
  unfold voices at voiced
  split at voiced
  · cases voiced
    exact List.cons_ne_nil _ _
  · split at voiced
    · cases voiced
    · split at voiced
      · cases voiced
      · cases voiced
        simp

theorem origins_of_bindInputs {created : List (Proc P × ProcSpec)} {procs : List (Proc P)}
    (bound : bindInputs created = .ok procs) :
    procs.map Proc.origin = (created.map (·.1)).map Proc.origin := by
  have same := flatMap_of_bindInputs (f := fun proc => [proc.origin])
    (fun proc inputs => by rw [proc.origin_withInputs inputs]) bound
  rwa [← List.map_eq_flatMap, ← List.map_eq_flatMap] at same

section

variable [Processor P] {environment : Environment P} {inner : LevelBuilder P}
  {around : Option Nat} {store after : Store P}

theorem origin_of_createProc {spec : ProcSpec} {description : ClassDescription P}
    {replica : Option Nat} {proc : Proc P}
    (made : createProc environment inner spec description replica store = .ok (proc, after)) :
    proc.origin = (spec.label, replica, description) := by
  obtain ⟨device, -, ⟨native, cell, -, -, rfl, -⟩ |
    ⟨below, level, last, targets, -, -, -, rfl, -⟩⟩ := createProc_cases made
  · rfl
  · rfl

theorem origins_of_createVoices {spec : ProcSpec} {description : ClassDescription P}
    {numbers : List (Option Nat)} {created : List (Proc P × ProcSpec)}
    (completed : createVoices environment inner spec description numbers store =
      .ok (created, after)) :
    (created.map (·.1)).map Proc.origin =
      numbers.map fun number => (spec.label, number, description) := by
  induction numbers generalizing store created with
  | nil =>
      cases completed
      rfl
  | cons number rest inductionHypothesis =>
      rw [createVoices] at completed
      obtain ⟨⟨proc, middle⟩, made, completed⟩ := bind_eq_ok.mp completed
      obtain ⟨⟨others, last⟩, remaining, completed⟩ := bind_eq_ok.mp completed
      cases completed
      rw [List.map_cons, List.map_cons, List.map_cons, inductionHypothesis remaining,
        origin_of_createProc made]

theorem label_of_createProcs {specs : List ProcSpec} {created : List (Proc P × ProcSpec)}
    (completed : createProcs environment inner around specs store = .ok (created, after))
    {origin : String × Option Nat × ClassDescription P}
    (member : origin ∈ (created.map (·.1)).map Proc.origin) :
    origin.1 ∈ specs.map (·.label) := by
  obtain ⟨proc, wasMade, rfl⟩ := List.mem_map.mp member
  obtain ⟨⟨_, spec⟩, listed, rfl⟩ := List.mem_map.mp wasMade
  obtain ⟨description, number, before, next, isSpec, -, made⟩ :=
    (created_of_createProcs completed).of_mem listed
  rw [origin_of_createProc made]
  exact List.mem_map_of_mem isSpec

/-- The procs with the label of a spec are its voices, in order. -/
theorem origins_of_createProcs {specs : List ProcSpec} {created : List (Proc P × ProcSpec)}
    (completed : createProcs environment inner around specs store = .ok (created, after))
    (distinct : (specs.map (·.label)).Nodup) {spec : ProcSpec} (listed : spec ∈ specs) :
    ∃ description numbers, environment.classes.get? spec.className = some description ∧
      voices description spec around = .ok numbers ∧
        ((created.map (·.1)).map Proc.origin).filter (·.1 == spec.label) =
          numbers.map fun number => (spec.label, number, description) := by
  induction specs generalizing store created with
  | nil => exact absurd listed List.not_mem_nil
  | cons first rest inductionHypothesis =>
      rw [List.map_cons, List.nodup_cons] at distinct
      rw [createProcs] at completed
      cases known : environment.classes.get? first.className with
      | none =>
          rw [known] at completed
          cases completed
      | some description =>
          rw [known] at completed
          obtain ⟨numbers, voiced, completed⟩ := bind_eq_ok.mp completed
          obtain ⟨⟨early, middle⟩, made, completed⟩ := bind_eq_ok.mp completed
          obtain ⟨⟨late, last⟩, remaining, completed⟩ := bind_eq_ok.mp completed
          cases completed
          rw [List.map_append, List.map_append, List.filter_append, origins_of_createVoices made]
          rcases List.mem_cons.mp listed with rfl | inRest
          · have apart : ((late.map (·.1)).map Proc.origin).filter (·.1 == spec.label) = [] := by
              rw [List.filter_eq_nil_iff]
              intro origin member same
              have sameLabel : origin.1 = spec.label := by simpa using same
              exact distinct.1 (sameLabel ▸ label_of_createProcs remaining member)
            refine ⟨description, numbers, known, voiced, ?_⟩
            rw [apart, List.append_nil, List.filter_eq_self]
            simp
          · have different : first.label ≠ spec.label := fun same =>
              distinct.1 (same ▸ List.mem_map_of_mem inRest)
            have none : (numbers.map fun number => (first.label, number, description)).filter
                (·.1 == spec.label) = [] := by
              rw [List.filter_eq_nil_iff]
              simp [different]
            rw [none, List.nil_append]
            exact inductionHypothesis remaining distinct.2 inRest

/-- In a level that was built, the procs with the label of a spec are its voices. -/
theorem origins_of_buildLevel {template : Template} {exposed : List VarRef} {level : Level P}
    (built : buildLevel environment inner template around exposed store = .ok (level, after))
    {spec : ProcSpec} (listed : spec ∈ template.procs) :
    ∃ description numbers, environment.classes.get? spec.className = some description ∧
      voices description spec around = .ok numbers ∧
        (level.procs.map Proc.origin).filter (·.1 == spec.label) =
          numbers.map fun number => (spec.label, number, description) := by
  obtain ⟨created, middle, made, assembled⟩ := createProcs_of_buildLevel built
  rw [origins_of_bindInputs assembled.bound]
  exact origins_of_createProcs made (nodup_of_duplicate? assembled.distinct).1 listed

end

/-! ## Forwarding -/

/-- The procs with a label, each with its position. -/
def labelled (procs : List (Proc P)) (label : String) : List (Proc P × Nat) :=
  procs.zipIdx.filter fun entry => entry.1.label == label

section

variable {procs : List (Proc P)} {label : String}

theorem mem_labelled {proc : Proc P} {position : Nat} :
    (proc, position) ∈ labelled procs label ↔
      procs[position]? = some proc ∧ proc.label = label := by
  rw [labelled, List.mem_filter, List.mem_zipIdx_iff_getElem?, beq_iff_eq]

theorem origins_labelled (procs : List (Proc P)) (label : String) :
    (labelled procs label).map (fun entry => entry.1.origin) =
      (procs.map Proc.origin).filter (·.1 == label) := by
  rw [← List.zipIdx_map_fst 0 procs, List.map_map, List.filter_map, List.zipIdx_map_fst]
  rfl

theorem positions_labelled (procs : List (Proc P)) (label : String) :
    ((labelled procs label).map (·.2)).Pairwise (· < ·) := by
  have positions : (procs.zipIdx.map (·.2)).Pairwise (· < ·) := by
    rw [List.zipIdx_map_snd]
    exact List.pairwise_lt_range'
  exact positions.sublist (List.filter_sublist.map _)

/-- Where all procs with a label have the variable that a target names at one position, it
forwards to that position in all of them. -/
theorem forwards_eq_labelled {declaration : Declaration} {target : VarRef} {index : Nat}
    (isTarget : declaration.target = some target)
    (isVoice : ∀ proc ∈ procs, proc.label = target.proc →
      proc.variableIndex? target.var = some index)
    (nonempty : labelled procs target.proc ≠ []) (spec : ProcSpec) :
    forwards spec procs declaration =
      .ok ((labelled procs target.proc).map fun entry => (entry.2, index)) := by
  have collected : ∀ address : Proc P × Nat → Option (Nat × Nat),
      (∀ proc position, address (proc, position) =
        if proc.label = target.proc then
          (proc.variableIndex? target.var).map fun var => (position, var)
        else none) →
      procs.zipIdx.filterMap address =
        (labelled procs target.proc).map fun entry => (entry.2, index) := by
    intro address isAddress
    rw [labelled, ← List.filterMap_eq_map, List.filterMap_filter]
    apply List.filterMap_congr
    rintro ⟨proc, position⟩ member
    rw [isAddress]
    by_cases same : proc.label = target.proc
    · have here := isVoice proc (List.fst_mem_of_mem_zipIdx member) same
      simp [same, here]
    · simp [same]
  have someAddress :
      ((labelled procs target.proc).map fun entry => (entry.2, index)).isEmpty = false := by
    simpa using nonempty
  simp only [forwards, isTarget]
  rw [collected _ fun _ _ => rfl, someAddress]
  rfl

/-- Where the procs with the label of a target are the voices of one proc, a variable with
that target forwards to all of them. -/
theorem forwards_eq_ok {declaration : Declaration} {target : VarRef}
    {numbers : List (Option Nat)} {description : ClassDescription P} {index : Nat}
    (isTarget : declaration.target = some target)
    (origins : (procs.map Proc.origin).filter (·.1 == target.proc) =
      numbers.map fun number => (target.proc, number, description))
    (indexed : description.variableIndex? target.var = some index) (nonempty : numbers ≠ [])
    (spec : ProcSpec) :
    ∃ addresses, forwards spec procs declaration = .ok addresses ∧
      Proc.Voices procs target.proc numbers description index addresses := by
  have paired : List.Forall₂ (fun (entry : Proc P × Nat) number =>
      entry.1.origin = (target.proc, number, description)) (labelled procs target.proc)
      numbers := by
    rw [← map_eq_map_iff_forall₂, origins_labelled, origins]
  have someVoice : labelled procs target.proc ≠ [] := by
    intro isEmpty
    rw [isEmpty, List.forall₂_nil_left_iff] at paired
    exact nonempty paired
  have isVoice : ∀ proc ∈ procs, proc.label = target.proc →
      proc.variableIndex? target.var = some index := by
    intro proc member same
    obtain ⟨position, there⟩ := List.mem_iff_getElem?.mp member
    obtain ⟨number, -, isOrigin⟩ :=
      exists_of_mem_forall₂ paired.flip (mem_labelled.mpr ⟨there, same⟩)
    have sameClass : proc.description = description := congrArg (·.2.2) isOrigin
    rw [Proc.variableIndex?, sameClass, indexed]
  refine ⟨_, forwards_eq_labelled isTarget isVoice someVoice spec, ?_⟩
  refine
    { nonempty := by simpa using someVoice
      increasing := ?_
      complete := ?_
      each := ?_ }
  · rw [List.map_map]
    exact positions_labelled procs target.proc
  · intro position proc there same
    exact List.mem_map_of_mem (f := fun entry : Proc P × Nat => (entry.2, index))
      (mem_labelled.mpr ⟨there, same⟩)
  · rw [List.forall₂_map_left_iff]
    have found : ∀ entry ∈ labelled procs target.proc, procs[entry.2]? = some entry.1 :=
      fun entry member => (mem_labelled.mp member).1
    refine ((List.forall₂_and_left _ _).mpr ⟨found, paired⟩).imp ?_
    rintro entry number ⟨there, isOrigin⟩
    exact ⟨rfl, entry.1, there, isOrigin⟩

end

section

variable [Processor P] {environment : Environment P} {inner : LevelBuilder P}

/-- Over a coherent class set, every variable of a subnet forwards into the level that was
built for it. -/
theorem forwards_of_buildLevel {registry : Registry P}
    (coherent : environment.classes.Coherent registry) {label : String}
    {description : ClassDescription P} {template : Template}
    (known : environment.classes.get? label = some description)
    (isSubnet : description.kind = .subnet template) {around : Option Nat}
    {exposed : List VarRef} {store after : Store P} {level : Level P}
    (built : buildLevel environment inner template around exposed store = .ok (level, after))
    {declaration : Declaration} (member : declaration ∈ description.vars) (spec : ProcSpec) :
    ∃ addresses, forwards spec level.procs declaration = .ok addresses ∧
      declaration.ForwardsTo environment.classes template around level.procs addresses := by
  obtain ⟨target, innerSpec, innerClass, found, isTarget, isSpec, isClass, isFound, sameType⟩ :=
    coherent.forwarded _ _ _ known isSubnet declaration member
  have labelled : innerSpec.label = target.proc := by simpa using List.find?_some isSpec
  obtain ⟨other, numbers, isOther, voiced, origins⟩ :=
    origins_of_buildLevel built (List.mem_of_find?_eq_some isSpec)
  obtain rfl := Option.some.inj (isClass.symm.trans isOther)
  rw [labelled] at origins
  rw [ClassDescription.declaration?_eq_bind] at isFound
  obtain ⟨index, indexed, isVariable⟩ := Option.bind_eq_some_iff.mp isFound
  obtain ⟨addresses, forwarded, voices⟩ :=
    forwards_eq_ok isTarget origins indexed (voices_ne_nil voiced) spec
  exact ⟨addresses, forwarded, target, innerSpec, innerClass, index, found, numbers, isTarget,
    isSpec, isClass, indexed, isVariable, sameType.symm, voiced, voices⟩

end

end Build

/-- Every subnet of a network forwards each of its variables as its class asks for. -/
def Level.Forwards (classes : ClassSet P) (level : Level P) : Prop :=
  ∀ head procs order presets targets, .subnet head procs order presets targets ∈ level.procs →
    ∃ template, head.description.kind = .subnet template ∧
      List.Forall₂ (Declaration.ForwardsTo classes template head.replica procs)
        head.description.vars targets

namespace Build

variable [Processor P]

theorem forwards_of_assembled {environment : Environment P} {registry : Registry P}
    (coherent : environment.classes.Coherent registry) {depth : Nat} {template : Template}
    {replica : Option Nat} {exposed : List VarRef} {store middle after : Store P}
    {created : List (Proc P × ProcSpec)} {level : Level P}
    (assembled : Assembled environment (buildNested environment depth) template replica exposed
      store created middle level after) : level.Forwards environment.classes := by
  intro head procs order presets targets member
  obtain ⟨spec, below, before, next, known, kind, insideBuilt, forwarded⟩ :=
    assembled.subnet_of_mem member
  refine ⟨below, kind, ?_⟩
  cases depth with
  | zero => cases insideBuilt
  | succ depth =>
      obtain ⟨others, alsoForwarded, each⟩ :=
        exists_mapM_eq_ok fun declaration (listed : declaration ∈ head.description.vars) =>
          forwards_of_buildLevel coherent known kind insideBuilt listed spec
      rw [forwarded] at alsoForwarded
      cases alsoForwarded
      exact each

/-- Every network inside a built one forwards the variables of its subnets. -/
theorem forwards_of_build {classes : ClassSet P} {registry : Registry P}
    (coherent : classes.Coherent registry) {template : Template} {timing : Timing}
    {devices : List Device} {network : Network P}
    (built : Network.build classes template timing devices = .ok network) {inside : Level P}
    (within : network.level.Within inside) : inside.Forwards classes :=
  forall_within_of_buildNested (motive := fun level => level.Forwards classes)
    (fun _ _ _ _ _ _ _ _ _ assembled => forwards_of_assembled coherent assembled)
    (buildNested_of_build built).1 within

end Build

/-- Over the class set that any tables finish with, a subnet is never refused for one of its
variables: whenever the level inside it was built, each of them forwards somewhere. In a
built network, each variable of each subnet at any depth forwards to exactly the voices of
the inner proc that its target names, in the order of their creation, and there is at least
one; in each of them it addresses the variable that its target names, which has its type. -/
theorem forwards_agree [Processor P] (registry : Registry P)
    (tables : List (List (String × Toml))) {classes : ClassSet P}
    (finished : ((Catalogue.empty registry).addTables tables).finish = .ok classes) :
    (∀ timing devices depth (spec : ProcSpec) description template replica store level after,
      classes.get? spec.className = some description → description.kind = .subnet template →
        Build.buildNested ⟨classes, timing, devices⟩ depth template replica
            (description.vars.filterMap (·.target)) store = .ok (level, after) →
          ∀ declaration ∈ description.vars, ∃ addresses,
            Build.forwards spec level.procs declaration = .ok addresses) ∧
      ∀ template timing devices network,
        Network.build classes template timing devices = .ok network →
          ∀ inside, network.level.Within inside → inside.Forwards classes := by
  have coherent := (Catalogue.wellFormed_addTables registry tables).1.coherent finished
  constructor
  · intro timing devices depth spec description template replica store level after known isSubnet
      built declaration member
    cases depth with
    | zero => cases built
    | succ depth =>
        obtain ⟨addresses, forwarded, -⟩ :=
          Build.forwards_of_buildLevel coherent known isSubnet built member spec
        exact ⟨addresses, forwarded⟩
  · intro template timing devices network built inside within
    exact Build.forwards_of_build coherent built within

namespace Shells

/-- The outer shell, fed by a counter. -/
def shellSpec : ProcSpec :=
  ⟨"shell", "outer", .empty, [⟨"level", "clock.out"⟩], none, none, none⟩

/-- A counter that the outer shell reads. -/
def template : Template := ⟨[⟨"clock", "counter", .empty, [], none, none, none⟩, shellSpec], []⟩

end Shells

/-- The variable of the outer shell forwards to both voices of the inner one. -/
theorem shells_forward :
    (∃ (level : Level Builtin) (after : Store Builtin) (addresses : List (Nat × Nat)),
      Build.buildNested ⟨Shells.classes, .standard, []⟩ 2 (Shells.core "inner" (some 2)) none
          [⟨"core", "level"⟩] [] = .ok (level, after) ∧
        (Shells.outer.vars.head?.map (Build.forwards Shells.shellSpec level.procs)) =
          some (.ok addresses)) ∧
    ∃ (network : Network Builtin) (head : ProcHead Builtin) (procs : List (Proc Builtin))
        (order : List Nat) (presets : List NetworkPreset),
      Network.build Shells.classes Shells.template .standard [] = .ok network ∧
        .subnet head procs order presets [[(0, 0), (1, 0)]] ∈ network.level.procs ∧
          ∃ template, head.description.kind = .subnet template ∧
            List.Forall₂ (Declaration.ForwardsTo Shells.classes template head.replica procs)
              head.description.vars [[(0, 0), (1, 0)]] := by
  obtain ⟨resolves, agrees⟩ := forwards_agree Registry.builtin Shells.tables Shells.finish_eq
  constructor
  · have insideBuilt : Build.buildNested ⟨Shells.classes, .standard, []⟩ 2
        (Shells.core "inner" (some 2)) none [⟨"core", "level"⟩] [] = .ok _ := rfl
    obtain ⟨addresses, forwarded⟩ := resolves .standard [] 2 Shells.shellSpec Shells.outer
      (Shells.core "inner" (some 2)) none [] _ _ rfl rfl insideBuilt _ List.mem_cons_self
    exact ⟨_, _, addresses, insideBuilt, congrArg some forwarded⟩
  · have built : Network.build Shells.classes Shells.template .standard [] = .ok _ := rfl
    have here := agrees _ _ _ _ built _ (.self _)
    exact ⟨_, _, _, _, _, built, List.mem_of_getElem? (i := 1) rfl,
      here _ _ _ _ _ (List.mem_of_getElem? (i := 1) rfl)⟩

end SignalNet
