import SignalNet.Native.Builtin
import SignalNet.Proofs.Network.ExecutionOrder
import SignalNet.Proofs.Network.Written

/-!
Contract: what a successful construction has done.

Building a level runs through checks and creations in a fixed sequence. Each lemma
here turns the success of one stage into named facts about its result, so that later
proofs cite the stage and never open the builder.

Owns: the stages of a cell (`createCell_stages`) and of one level (`Assembled`), the creation
of its procs (`Created`), the numbering of cells along the tree (`slots_of_build`), and the
principle that carries what one assembly guarantees to every network inside a built one
(`forall_within_of_buildNested`).
-/

set_option autoImplicit false

namespace SignalNet.Build

variable {P : Type}

/-! ## Cells -/

/-- What holds of a bank and what literals keep holds of it with all arguments. -/
theorem applyArguments_keeps {motive : Bank → Prop} {spec : ProcSpec}
    {arguments : List (String × Literal)} {bank stored : Bank} (initial : motive bank)
    (step : ∀ before var literal, motive before → motive (before.applyLiteral var literal).1)
    (applied : applyArguments spec arguments bank = .ok stored) : motive stored := by
  fun_induction applyArguments spec arguments bank with
  | case1 bank =>
      cases applied
      exact initial
  | case2 label literal rest bank absent => cases applied
  | case3 label literal rest bank var found kept fault refused => cases applied
  | case4 label literal rest bank var found next result inductionHypothesis =>
      have kept := step bank var literal initial
      rw [result] at kept
      exact inductionHypothesis kept applied

/-- The class of a native proc is given the declared values with the arguments of the spec, and
leaves a processor and a bank. -/
theorem createCell_stages {environment : Environment P} {spec : ProcSpec}
    {description : ClassDescription P} {native : NativeClass P} {device : Option Nat}
    {cell : Cell P} (made : createCell environment spec description native device = .ok cell) :
    ∃ start given, Bank.ofDeclarations description.vars = .ok start ∧
      applyArguments spec spec.arguments.entries start = .ok given ∧
        native.create ⟨spec.label, environment.timing, device.bind (environment.devices[·]?)⟩
          given = .ok (cell.processor, cell.bank) := by
  unfold createCell at made
  split at made
  · cases made
  · obtain ⟨start, declared, made⟩ := bind_eq_ok.mp made
    obtain ⟨given, applied, made⟩ := bind_eq_ok.mp made
    obtain ⟨⟨processor, left⟩, created, made⟩ := bind_eq_ok.mp made
    cases made
    exact ⟨start, given, mapError_eq_ok.mp declared, applied, mapError_eq_ok.mp created⟩

/-! ## Connections -/

/-- Binding gives every proc connections that were resolved one by one, and changes
nothing else. -/
theorem bindInputs_spec {created : List (Proc P × ProcSpec)} {procs : List (Proc P)}
    (bound : bindInputs created = .ok procs) :
    procs.length = created.length ∧ ∀ position (proc : Proc P) (spec : ProcSpec),
      created[position]? = some (proc, spec) → ∃ inputs,
        spec.inputs.mapM (bindInput (created.map (·.1)) position proc) = .ok inputs ∧
          procs[position]? = some (proc.withInputs inputs) := by
  have collected := mapM_eq_ok.mp bound
  refine ⟨by simpa using collected.length_eq.symm, fun position proc spec found => ?_⟩
  have isItem : created.zipIdx[position]? = some ((proc, spec), position) := by simp [found]
  obtain ⟨result, there, made⟩ := exists_getElem?_of_forall₂ collected isItem
  obtain ⟨inputs, read, rfl⟩ := map_eq_ok.mp made
  exact ⟨inputs, read, there⟩

theorem exists_created_of_bindInputs {created : List (Proc P × ProcSpec)}
    {procs : List (Proc P)} (bound : bindInputs created = .ok procs) {proc : Proc P}
    (member : proc ∈ procs) :
    ∃ item ∈ created, ∃ inputs, proc = item.1.withInputs inputs := by
  obtain ⟨sameLength, each⟩ := bindInputs_spec bound
  obtain ⟨position, found⟩ := List.mem_iff_getElem?.mp member
  have below : position < created.length :=
    sameLength ▸ (List.getElem?_eq_some_iff.mp found).1
  obtain ⟨inputs, -, there⟩ := each position created[position].1 created[position].2
    (List.getElem?_eq_getElem below)
  exact ⟨created[position], List.getElem_mem below, inputs,
    Option.some.inj (found.symm.trans there)⟩

/-- What connections do not change about a proc, they do not change about a level. -/
theorem flatMap_of_bindInputs {α : Type} {f : Proc P → List α}
    (blind : ∀ proc inputs, f (proc.withInputs inputs) = f proc)
    {created : List (Proc P × ProcSpec)} {procs : List (Proc P)}
    (bound : bindInputs created = .ok procs) :
    procs.flatMap f = (created.map (·.1)).flatMap f := by
  obtain ⟨sameLength, each⟩ := bindInputs_spec bound
  rw [List.flatMap_def, List.flatMap_def]
  congr 1
  apply List.ext_getElem (by simp [sameLength])
  intro position procsBelow createdBelow
  have below : position < created.length := by simpa using createdBelow
  obtain ⟨inputs, -, there⟩ := each position created[position].1 created[position].2
    (List.getElem?_eq_getElem below)
  obtain ⟨_, isProc⟩ := List.getElem?_eq_some_iff.mp there
  simp [isProc, blind]

theorem slotsOf_of_bindInputs {created : List (Proc P × ProcSpec)} {procs : List (Proc P)}
    (bound : bindInputs created = .ok procs) :
    slotsOf procs = slotsOf (created.map (·.1)) := by
  rw [slotsOf_eq_flatMap, slotsOf_eq_flatMap, flatMap_of_bindInputs Proc.slots_withInputs bound]

/-! ## Stages -/

variable [Processor P]

/-- The procs of a level were made in turn, each from one of the specs. -/
inductive Created (environment : Environment P) (inner : LevelBuilder P)
    (specs : List ProcSpec) (around : Option Nat) :
    Store P → List (Proc P × ProcSpec) → Store P → Prop where
  | nil (store : Store P) : Created environment inner specs around store [] store
  | cons {store middle after : Store P} {spec : ProcSpec} {description : ClassDescription P}
      {numbers : List (Option Nat)} {number : Option Nat} {proc : Proc P}
      {rest : List (Proc P × ProcSpec)} (listed : spec ∈ specs)
      (known : environment.classes.get? spec.className = some description)
      (voiced : voices description spec around = .ok numbers) (isVoice : number ∈ numbers)
      (made : createProc environment inner spec description number store = .ok (proc, middle))
      (others : Created environment inner specs around middle rest after) :
      Created environment inner specs around store ((proc, spec) :: rest) after

/-- The stages that a level went through when it was built: its procs were created on
the cells in `store`, giving those in `middle`, and the presets that they ask for led to
those in `after`. -/
structure Assembled (environment : Environment P) (inner : LevelBuilder P)
    (template : Template) (replica : Option Nat) (exposed : List VarRef) (store : Store P)
    (created : List (Proc P × ProcSpec)) (middle : Store P) (level : Level P)
    (after : Store P) : Prop where
  distinct : duplicate? [] template.procs = none
  made : Created environment inner template.procs replica store created middle
  limited : checkPolyLimits (created.map (·.1)) = .ok ()
  bound : bindInputs created = .ok level.procs
  fed : checkSources exposed level.procs = .ok ()
  ordered : orderProcs level.procs = .ok level.order
  preset : applyConstructionPresets (level.procs.zip (created.map (·.2))) middle = .ok after
  presets_eq : level.presets = template.presets

section

variable {environment : Environment P} {inner : LevelBuilder P} {specs : List ProcSpec}
  {around : Option Nat} {store middle after : Store P}

theorem Created.append {first second : List (Proc P × ProcSpec)}
    (early : Created environment inner specs around store first middle)
    (late : Created environment inner specs around middle second after) :
    Created environment inner specs around store (first ++ second) after := by
  induction early with
  | nil store => exact late
  | cons listed known voiced isVoice made _ inductionHypothesis =>
      exact .cons listed known voiced isVoice made (inductionHypothesis late)

theorem Created.mono {larger : List ProcSpec} {created : List (Proc P × ProcSpec)}
    (made : Created environment inner specs around store created after)
    (included : ∀ spec ∈ specs, spec ∈ larger) :
    Created environment inner larger around store created after := by
  induction made with
  | nil store => exact .nil store
  | cons listed known voiced isVoice made _ inductionHypothesis =>
      exact .cons (included _ listed) known voiced isVoice made inductionHypothesis

theorem created_of_createVoices {spec : ProcSpec} {description : ClassDescription P}
    {numbers remaining : List (Option Nat)} {created : List (Proc P × ProcSpec)}
    (known : environment.classes.get? spec.className = some description)
    (voiced : voices description spec around = .ok numbers)
    (included : ∀ number ∈ remaining, number ∈ numbers)
    (completed : createVoices environment inner spec description remaining store =
      .ok (created, after)) :
    Created environment inner [spec] around store created after := by
  induction remaining generalizing store created with
  | nil =>
      cases completed
      exact .nil _
  | cons number rest inductionHypothesis =>
      rw [createVoices] at completed
      obtain ⟨⟨proc, middle⟩, made, completed⟩ := bind_eq_ok.mp completed
      obtain ⟨⟨others, last⟩, remaining, completed⟩ := bind_eq_ok.mp completed
      cases completed
      exact .cons (List.mem_singleton_self spec) known voiced (included number List.mem_cons_self)
        made (inductionHypothesis (fun other member =>
          included other (List.mem_cons_of_mem _ member)) remaining)

theorem created_of_createProcs {created : List (Proc P × ProcSpec)}
    (completed : createProcs environment inner around specs store = .ok (created, after)) :
    Created environment inner specs around store created after := by
  induction specs generalizing store created with
  | nil =>
      cases completed
      exact .nil _
  | cons spec rest inductionHypothesis =>
      rw [createProcs] at completed
      cases known : environment.classes.get? spec.className with
      | none =>
          rw [known] at completed
          cases completed
      | some description =>
          rw [known] at completed
          obtain ⟨numbers, voiced, completed⟩ := bind_eq_ok.mp completed
          obtain ⟨⟨first, middle⟩, made, completed⟩ := bind_eq_ok.mp completed
          obtain ⟨⟨others, last⟩, remaining, completed⟩ := bind_eq_ok.mp completed
          cases completed
          have early := created_of_createVoices known voiced (fun _ member => member) made
          have late := inductionHypothesis remaining
          refine (early.mono ?_).append (late.mono ?_)
          · intro only member
            rw [List.mem_singleton.mp member]
            exact List.mem_cons_self
          · intro other member
            exact List.mem_cons_of_mem spec member

theorem createProcs_of_buildLevel {template : Template} {replica : Option Nat}
    {exposed : List VarRef} {level : Level P}
    (built : buildLevel environment inner template replica exposed store = .ok (level, after)) :
    ∃ created middle,
      createProcs environment inner replica template.procs store = .ok (created, middle) ∧
        Assembled environment inner template replica exposed store created middle level after := by
  rw [buildLevel] at built
  cases distinct : duplicate? [] template.procs with
  | some label =>
      rw [distinct] at built
      cases built
  | none =>
      rw [distinct] at built
      obtain ⟨⟨created, middle⟩, made, built⟩ := bind_eq_ok.mp built
      obtain ⟨⟨⟩, limited, built⟩ := bind_eq_ok.mp built
      obtain ⟨procs, bound, built⟩ := bind_eq_ok.mp built
      obtain ⟨⟨⟩, fed, built⟩ := bind_eq_ok.mp built
      obtain ⟨order, ordered, built⟩ := bind_eq_ok.mp built
      obtain ⟨last, preset, built⟩ := bind_eq_ok.mp built
      cases built
      exact ⟨created, middle, made, distinct, created_of_createProcs made, limited, bound, fed,
        ordered, preset, rfl⟩

theorem assembled_of_buildLevel {template : Template} {replica : Option Nat}
    {exposed : List VarRef} {level : Level P}
    (built : buildLevel environment inner template replica exposed store = .ok (level, after)) :
    ∃ created middle,
      Assembled environment inner template replica exposed store created middle level after := by
  obtain ⟨created, middle, -, assembled⟩ := createProcs_of_buildLevel built
  exact ⟨created, middle, assembled⟩

/-- A created proc is native and has the next cell, or it is a subnet around a level
that was built first. -/
theorem createProc_cases {spec : ProcSpec} {description : ClassDescription P}
    {replica : Option Nat} {proc : Proc P}
    (made : createProc environment inner spec description replica store = .ok (proc, after)) :
    ∃ device, findDevice environment spec = .ok device ∧
      ((∃ native cell, description.kind = .plain native ∧
          createCell environment spec description native device = .ok cell ∧
          proc = .native ⟨spec.label, replica, description, [], device⟩ store.length ∧
          after = store ++ [cell]) ∨
        ∃ template level middle targets, description.kind = .subnet template ∧
          inner template replica (description.vars.filterMap (·.target)) store =
            .ok (level, middle) ∧
          description.vars.mapM (forwards spec level.procs) = .ok targets ∧
          proc = .subnet ⟨spec.label, replica, description, [], device⟩ level.procs level.order
            level.presets targets ∧
          writeSubnet spec proc middle = .ok after) := by
  rw [createProc] at made
  obtain ⟨device, found, made⟩ := bind_eq_ok.mp made
  refine ⟨device, found, ?_⟩
  cases kind : description.kind with
  | plain native =>
      simp only [kind] at made
      obtain ⟨cell, cellMade, made⟩ := bind_eq_ok.mp made
      cases made
      exact .inl ⟨native, cell, rfl, cellMade, rfl, rfl⟩
  | subnet template =>
      simp only [kind] at made
      obtain ⟨⟨level, middle⟩, levelBuilt, made⟩ := bind_eq_ok.mp made
      obtain ⟨targets, forwarded, made⟩ := bind_eq_ok.mp made
      obtain ⟨last, literals, made⟩ := bind_eq_ok.mp made
      cases made
      exact .inr ⟨template, level, middle, targets, rfl, levelBuilt, forwarded, rfl, literals⟩

/-- A created native proc has a cell that its class made. -/
theorem cell_of_createProc {spec : ProcSpec} {description : ClassDescription P}
    {replica : Option Nat} {head : ProcHead P} {slot : Nat}
    (made : createProc environment inner spec description replica store =
      .ok (.native head slot, after)) :
    ∃ native device cell, head = ⟨spec.label, replica, description, [], device⟩ ∧
      slot = store.length ∧ after = store ++ [cell] ∧ description.kind = .plain native ∧
        findDevice environment spec = .ok device ∧
          createCell environment spec description native device = .ok cell := by
  obtain ⟨device, bound, ⟨native, cell, isPlain, cellMade, isNative, rfl⟩ |
    ⟨template, level, middle, targets, -, -, -, isSubnet, -⟩⟩ := createProc_cases made
  · cases isNative
    exact ⟨native, device, cell, rfl, rfl, rfl, isPlain, bound, cellMade⟩
  · cases isSubnet

/-- A created subnet is around a level that was built first. -/
theorem level_of_createProc {spec : ProcSpec} {description : ClassDescription P}
    {replica : Option Nat} {proc : Proc P} {level : Level P}
    (made : createProc environment inner spec description replica store = .ok (proc, after))
    (isSubnet : proc.inner? = some level) :
    ∃ template middle targets device, description.kind = .subnet template ∧
      inner template replica (description.vars.filterMap (·.target)) store = .ok (level, middle) ∧
        description.vars.mapM (forwards spec level.procs) = .ok targets ∧
          proc = .subnet ⟨spec.label, replica, description, [], device⟩ level.procs level.order
            level.presets targets ∧
            writeSubnet spec proc middle = .ok after := by
  obtain ⟨device, -, ⟨native, cell, -, -, isNative, -⟩ |
    ⟨template, below, middle, targets, kind, levelBuilt, forwarded, isProc, literals⟩⟩ :=
    createProc_cases made
  · rw [isNative] at isSubnet
    cases isSubnet
  · obtain rfl : below = level := by
      rw [isProc] at isSubnet
      exact Option.some.inj isSubnet
    exact ⟨template, middle, targets, device, kind, levelBuilt, forwarded, isProc, literals⟩

theorem Created.of_mem {created : List (Proc P × ProcSpec)}
    (made : Created environment inner specs around store created after) {proc : Proc P}
    {spec : ProcSpec} (member : (proc, spec) ∈ created) :
    ∃ description number before next, spec ∈ specs ∧
      environment.classes.get? spec.className = some description ∧
      createProc environment inner spec description number before = .ok (proc, next) := by
  induction made with
  | nil store => exact absurd member List.not_mem_nil
  | cons listed known _ _ made _ inductionHypothesis =>
      rcases List.mem_cons.mp member with same | later
      · cases same
        exact ⟨_, _, _, _, listed, known, made⟩
      · exact inductionHypothesis later

/-- A subnet on a level is around a level that was built for its class, and its variables
forward into that one. -/
theorem Assembled.subnet_of_mem {template : Template} {replica : Option Nat}
    {exposed : List VarRef} {created : List (Proc P × ProcSpec)} {level : Level P}
    (assembled : Assembled environment inner template replica exposed store created middle level
      after) {head : ProcHead P} {procs : List (Proc P)} {order : List Nat}
    {presets : List NetworkPreset} {targets : List (List (Nat × Nat))}
    (member : .subnet head procs order presets targets ∈ level.procs) :
    ∃ (spec : ProcSpec) (below : Template) (before next : Store P),
      environment.classes.get? spec.className = some head.description ∧
        head.description.kind = .subnet below ∧
          inner below head.replica (head.description.vars.filterMap (·.target)) before =
              .ok (⟨procs, order, presets⟩, next) ∧
            head.description.vars.mapM (forwards spec procs) = .ok targets := by
  obtain ⟨⟨made, spec⟩, wasCreated, inputs, isSubnet⟩ :=
    exists_created_of_bindInputs assembled.bound member
  obtain ⟨description, number, before, next, -, known, creation⟩ :=
    assembled.made.of_mem wasCreated
  obtain ⟨device, -, ⟨native, cell, -, -, rfl, -⟩ |
    ⟨below, inside, last, found, kind, insideBuilt, forwarded, rfl, -⟩⟩ :=
    createProc_cases creation
  · cases isSubnet
  · cases isSubnet
    exact ⟨spec, below, before, last, known, kind, insideBuilt, forwarded⟩

end

/-! ## The numbering of cells -/

section

variable {environment : Environment P} {inner : LevelBuilder P} {template : Template}
  {replica : Option Nat} {exposed : List VarRef} {store after : Store P} {level : Level P}

/-- New cells are numbered in the order of the tree, behind the old ones. -/
def Numbered (store : Store P) (slots : List Nat) (after : Store P) : Prop :=
  List.range after.length = List.range store.length ++ slots

def NumbersCells (inner : LevelBuilder P) : Prop :=
  ∀ template replica exposed store level after,
    inner template replica exposed store = .ok (level, after) →
      Numbered store level.slots after

theorem numbered_createProc (numbers : NumbersCells inner) {spec : ProcSpec}
    {description : ClassDescription P} {proc : Proc P}
    (made : createProc environment inner spec description replica store = .ok (proc, after)) :
    Numbered store proc.slots after := by
  obtain ⟨device, -, ⟨native, cell, -, -, rfl, rfl⟩ |
    ⟨template, level, middle, targets, -, levelBuilt, -, isSubnet, literals⟩⟩ :=
    createProc_cases made
  · rw [Numbered, List.length_append, List.length_singleton, List.range_succ, Proc.slots]
  · have numbered := numbers _ _ _ _ _ _ levelBuilt
    rw [Numbered, (written_writeSubnet literals).length_eq, numbered, isSubnet, Proc.slots,
      Level.slots]

theorem numbered_created (numbers : NumbersCells inner) {specs : List ProcSpec}
    {created : List (Proc P × ProcSpec)}
    (made : Created environment inner specs replica store created after) :
    Numbered store (slotsOf (created.map (·.1))) after := by
  induction made with
  | nil store => rw [Numbered, List.map_nil, slotsOf, List.append_nil]
  | cons _ _ _ _ made _ inductionHypothesis =>
      rw [Numbered, inductionHypothesis, numbered_createProc numbers made, List.map_cons, slotsOf,
        List.append_assoc]

/-- Building a level numbers its cells in the order of the tree. -/
theorem numbersCells_buildNested (environment : Environment P) (depth : Nat) :
    NumbersCells (buildNested environment depth) := by
  induction depth with
  | zero =>
      intro template replica exposed store level after built
      cases built
  | succ depth inductionHypothesis =>
      intro template replica exposed store level after built
      obtain ⟨created, middle, assembled⟩ := assembled_of_buildLevel built
      rw [Numbered, (written_applyConstructionPresets assembled.preset).length_eq,
        numbered_created inductionHypothesis assembled.made, Level.slots,
        slotsOf_of_bindInputs assembled.bound]

end

/-! ## Networks inside a built network -/

/-- What every assembly guarantees for its level holds of every network inside a built
one. -/
theorem forall_within_of_buildNested {environment : Environment P} {motive : Level P → Prop}
    (holds : ∀ depth template replica exposed store created middle level after,
      Assembled environment (buildNested environment depth) template replica exposed store created
        middle level after → motive level)
    {depth : Nat} {template : Template} {replica : Option Nat} {exposed : List VarRef}
    {store after : Store P} {level inside : Level P}
    (built : buildNested environment depth template replica exposed store = .ok (level, after))
    (within : level.Within inside) : motive inside := by
  induction depth generalizing template replica exposed store after level with
  | zero => cases built
  | succ depth inductionHypothesis =>
      obtain ⟨created, middle, assembled⟩ := assembled_of_buildLevel built
      cases within with
      | self => exact holds _ _ _ _ _ _ _ _ _ assembled
      | @inner _ proc _ _ member isSubnet deeper =>
          cases proc with
          | native => cases isSubnet
          | subnet =>
              cases isSubnet
              obtain ⟨spec, below, before, next, -, -, belowBuilt, -⟩ :=
                assembled.subnet_of_mem member
              exact inductionHypothesis belowBuilt deeper

/-! ## Whole networks -/

section

variable {classes : ClassSet P} {template : Template} {timing : Timing} {devices : List Device}
  {network : Network P}

theorem buildNested_of_build
    (built : Network.build classes template timing devices = .ok network) :
    buildNested ⟨classes, timing, devices⟩ (depthLimit classes) template none [] [] =
        .ok (network.level, network.store) ∧
      network.devices = devices ∧ network.timing = timing ∧ network.cycleIndex = 0 := by
  rw [Network.build] at built
  obtain ⟨⟨level, store⟩, nested, built⟩ := bind_eq_ok.mp built
  cases built
  exact ⟨nested, rfl, rfl, rfl⟩

/-- The cells of a built network are those of its native procs, one each. -/
theorem slots_of_build (built : Network.build classes template timing devices = .ok network) :
    network.level.slots = List.range network.store.length := by
  have numbered := numbersCells_buildNested _ _ _ _ _ _ _ _ (buildNested_of_build built).1
  rw [Numbered, List.length_nil, List.range_zero, List.nil_append] at numbered
  exact numbered.symm

theorem nodup_slots_of_build
    (built : Network.build classes template timing devices = .ok network) {level : Level P}
    (within : network.level.Within level) : level.slots.Nodup := by
  apply within.slots_sublist.nodup
  rw [slots_of_build built]
  exact List.nodup_range

end

/-! ## A small network -/

/-- One class of constants. -/
def constants : ClassSet Builtin :=
  ⟨[⟨"number",
      [⟨"value", "", some .double, .empty, none, false, none⟩,
        ⟨"out", "", some .double, .empty, none, false, none⟩],
      [], .plain Builtin.numberClass, none⟩]⟩

/-- A constant that two other ones read. -/
def fork : Template :=
  let constant := fun (label : String) (inputs : List InputSpec) =>
    (⟨label, "number", .empty, inputs, none, none, none⟩ : ProcSpec)
  ⟨[constant "base" [], constant "left" [⟨"value", "base.out"⟩],
    constant "right" [⟨"value", "base.out"⟩]], []⟩

end SignalNet.Build
