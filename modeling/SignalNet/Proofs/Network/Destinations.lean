import SignalNet.Proofs.Network.Precedence

/-!
Contract: connections lead where the template says.

Building resolves the connections that a spec asks for, one by one, and looks at the type of the
variable that a connection leads to. It does not look at the flags of that variable. So the
connections of a built network are those that the templates ask for, on every level, and one of
them leads to a variable that takes no connection exactly if some template asks for that. Such a
variable is one that has the flag itself, or stands for one that has it, through any number of
subnets.

Owns: levels that are bound as their template says (`Level.BoundAs`), that the templates inside a
template are those of the levels inside the network (`Build.exists_unfolds_of_within`), and the
law of destinations (`destinations_as_written`).
-/

set_option autoImplicit false

namespace SignalNet

variable {P : Type}

/-- A proc has one connection for each that a spec asks for, in that order, and each leads to the
variable that is named there. -/
structure Proc.BoundAs (classes : ClassSet P) (spec : ProcSpec) (proc : Proc P) : Prop where
  label : proc.label = spec.label
  known : classes.get? spec.className = some proc.description
  bound : List.Forall₂ (fun (input : InputSpec) connection =>
    proc.variableIndex? input.var = some connection.destination) spec.inputs proc.head.inputs

/-- The procs of a level are bound as the specs of a template say, and no spec is left out. -/
structure Level.BoundAs (classes : ClassSet P) (template : Template) (level : Level P) :
    Prop where
  each : ∀ proc ∈ level.procs, ∃ spec ∈ template.procs, proc.BoundAs classes spec
  all : ∀ spec ∈ template.procs, ∃ proc ∈ level.procs, proc.BoundAs classes spec

namespace Build

variable [Processor P] {environment : Environment P} {inner : LevelBuilder P}
  {template own : Template} {around number : Option Nat} {exposed : List VarRef}
  {store middle after : Store P} {level inside : Level P}

theorem Assembled.boundAs {created : List (Proc P × ProcSpec)}
    (assembled : Assembled environment inner template around exposed store created middle level
      after) {proc : Proc P} (member : proc ∈ level.procs) :
    ∃ spec ∈ template.procs, proc.BoundAs environment.classes spec := by
  obtain ⟨sameLength, each⟩ := bindInputs_spec assembled.bound
  obtain ⟨position, found⟩ := List.mem_iff_getElem?.mp member
  have below : position < created.length := sameLength ▸ (List.getElem?_eq_some_iff.mp found).1
  obtain ⟨⟨made, spec⟩, isItem⟩ : ∃ item, created[position]? = some item :=
    ⟨_, List.getElem?_eq_getElem below⟩
  obtain ⟨inputs, resolved, there⟩ := each position made spec isItem
  obtain rfl := Option.some.inj (found.symm.trans there)
  obtain ⟨description, voice, before, next, listed, known, creation⟩ :=
    assembled.made.of_mem (List.mem_of_getElem? isItem)
  have origin := origin_of_createProc creation
  refine ⟨spec, listed, ?_, ?_, ?_⟩
  · rw [Proc.label_withInputs]
    exact congrArg (·.1) origin
  · rw [Proc.description_withInputs, known]
    exact congrArg some (congrArg (·.2.2) origin).symm
  · rw [Proc.inputs_withInputs]
    refine (mapM_eq_ok.mp resolved).imp fun input connection bound => ?_
    rw [Proc.variableIndex?, Proc.description_withInputs]
    exact (bound_of_bindInput bound).destination

theorem boundAs_of_buildLevel
    (built : buildLevel environment inner template around exposed store = .ok (level, after)) :
    level.BoundAs environment.classes template := by
  obtain ⟨created, middle, assembled⟩ := assembled_of_buildLevel built
  refine ⟨fun proc member => assembled.boundAs member, fun spec listed => ?_⟩
  -- a spec has at least one number, and the proc with it is bound as some spec with its label
  obtain ⟨areInstances, -⟩ := instances_of_buildLevel built
  obtain ⟨voice, isNumber⟩ : ∃ voice, voice ∈ spec.numbers around := by
    unfold ProcSpec.numbers
    cases spec.polyCount with
    | none => exact ⟨around, List.mem_singleton_self _⟩
    | some count =>
        exact ⟨some 0, List.mem_map_of_mem (List.mem_range.mpr (by omega))⟩
  have isInstance : (spec, voice) ∈ template.instances around :=
    List.mem_flatMap.mpr ⟨spec, listed, List.mem_map_of_mem isNumber⟩
  obtain ⟨proc, member, description, -, isOrigin⟩ :=
    exists_of_mem_forall₂ areInstances isInstance
  have labelled : proc.label = spec.label := congrArg (·.1) isOrigin
  obtain ⟨other, alsoListed, bound⟩ := assembled.boundAs member
  obtain rfl : other = spec := List.inj_on_of_nodup_map (nodup_of_duplicate? assembled.distinct).1
    alsoListed listed (bound.label.symm.trans labelled)
  exact ⟨proc, member, bound⟩

/-! ## Templates and levels -/

theorem within_of_unfolds {depth : Nat}
    (built : buildNested environment depth template around exposed store = .ok (level, after))
    (unfolds : Level.Unfolds template around level own number inside) :
    Template.Within environment.classes template own := by
  induction depth generalizing template around exposed store after level with
  | zero => cases built
  | succ depth inductionHypothesis =>
      cases unfolds with
      | self => exact .self _
      | @inner _ inner _ _ _ _ below _ proc member isSubnet isInner deeper =>
          obtain ⟨created, middle, assembled⟩ := assembled_of_buildLevel built
          obtain ⟨spec, listed, -, known⟩ := assembled.exists_spec member
          cases proc with
          | native => cases isSubnet
          | subnet =>
              cases isSubnet
              obtain ⟨_, _, before, next, -, kind, belowBuilt, -⟩ := assembled.subnet_of_mem member
              cases isInner.symm.trans kind
              exact .inner listed known isInner (inductionHypothesis belowBuilt deeper)

/-- A proc of a subnet class has a level inside. -/
theorem Assembled.exists_inner {created : List (Proc P × ProcSpec)}
    (assembled : Assembled environment inner template around exposed store created middle level
      after) {proc : Proc P} (member : proc ∈ level.procs)
    (isSubnet : proc.description.kind = .subnet own) :
    ∃ head procs order presets targets, proc = .subnet head procs order presets targets := by
  obtain ⟨⟨made, spec⟩, wasCreated, inputs, rfl⟩ :=
    exists_created_of_bindInputs assembled.bound member
  obtain ⟨description, voice, before, next, -, -, creation⟩ := assembled.made.of_mem wasCreated
  rw [Proc.description_withInputs] at isSubnet
  obtain ⟨device, -, ⟨native, cell, isPlain, -, rfl, -⟩ | ⟨_, _, _, _, -, -, -, rfl, -⟩⟩ :=
    createProc_cases creation
  · cases isPlain.symm.trans isSubnet
  · exact ⟨_, _, _, _, _, rfl⟩

/-- Every template inside a template has a level that was built from it. -/
theorem exists_unfolds_of_within (within : Template.Within environment.classes template own)
    {depth : Nat}
    (built : buildNested environment depth template around exposed store = .ok (level, after)) :
    ∃ number inside, Level.Unfolds template around level own number inside := by
  induction within generalizing depth around exposed store after level with
  | self template => exact ⟨around, level, .self _ _ _⟩
  | @inner template inner last spec description listed known isSubnet _ inductionHypothesis =>
      cases depth with
      | zero => cases built
      | succ depth =>
          obtain ⟨proc, member, bound⟩ := (boundAs_of_buildLevel built).all spec listed
          obtain rfl := Option.some.inj (known.symm.trans bound.known)
          obtain ⟨created, middle, assembled⟩ := assembled_of_buildLevel built
          obtain ⟨head, procs, order, presets, targets, rfl⟩ :=
            assembled.exists_inner member isSubnet
          obtain ⟨_, _, before, next, -, kind, belowBuilt, -⟩ := assembled.subnet_of_mem member
          cases isSubnet.symm.trans kind
          obtain ⟨number, inside, deeper⟩ := inductionHypothesis belowBuilt
          exact ⟨number, inside, .inner member rfl isSubnet deeper⟩

end Build

/-! ## Flags of destinations -/

/-- A variable has the flags of the declarations that it collects. -/
theorem Declaration.Collects.has_iff {final native : Declaration} {stops : List Declaration}
    (collects : final.Collects stops native) (flag : Flag) :
    final.has flag = true ↔ ∃ stop ∈ stops ++ [native], stop.has flag = true := by
  have joined : ∀ stops : List Declaration,
      (stops.foldr (fun stop flags => stop.flags.union flags) native.flags).has flag = true ↔
        ∃ stop ∈ stops ++ [native], stop.has flag = true := by
    intro stops
    induction stops with
    | nil => simp [Declaration.has]
    | cons stop rest inductionHypothesis =>
        rw [List.foldr_cons, FlagSet.has_union, Bool.or_eq_true, inductionHypothesis,
          List.cons_append, List.exists_mem_cons_iff]
        rfl
  rw [Declaration.has, collects.flags]
  exact joined stops

/-- A variable has a flag itself, or stands for one that has it, through any number of subnets. -/
def Catalogue.Carries (catalogue : Catalogue P) (classes : ClassSet P)
    (description : ClassDescription P) (var : Nat) (flag : Flag) : Prop :=
  ∃ stops native, catalogue.Leads classes description var stops native ∧
    ∃ stop ∈ stops ++ [native], stop.has flag = true

/-- In a finished class set, a variable is described with the flags that it carries. -/
theorem Catalogue.WellFormed.has_iff_carries {catalogue : Catalogue P}
    (wellFormed : catalogue.WellFormed) {classes : ClassSet P}
    (finished : catalogue.finish = .ok classes) {label : String}
    {description : ClassDescription P} (known : classes.get? label = some description) {var : Nat}
    {declaration : Declaration} (listed : description.vars[var]? = some declaration) (flag : Flag) :
    declaration.has flag = true ↔ catalogue.Carries classes description var flag := by
  obtain ⟨resolved, -⟩ := wellFormed.finish_eq_ok.mp finished
  obtain ⟨settled, -⟩ := (wellFormed.get?_resolved resolved).mp known
  obtain ⟨stops, native, leads, collects⟩ := wellFormed.exists_leads finished settled listed
  rw [collects.has_iff]
  constructor
  · exact fun carried => ⟨stops, native, leads, carried⟩
  · rintro ⟨others, other, alsoLeads, carried⟩
    obtain ⟨rfl, rfl⟩ := leads.unique wellFormed alsoLeads
    exact carried

/-- Over the class set that any tables finish with, in every built network: every level has a
template, every template inside the one that is built has a level, and the connections of each
proc are those that its spec asks for, one by one, to the variables that are named there. So a
connection leads to a variable with a flag, such as the one of variables that take no connection,
exactly if a template asks for a connection to a variable that has the flag or stands for one that
has it, on whatever level: building does not refuse it. -/
theorem destinations_as_written [Processor P] (registry : Registry P)
    (tables : List (List (String × Toml))) {classes : ClassSet P}
    (finished : ((Catalogue.empty registry).addTables tables).finish = .ok classes)
    {template : Template} {timing : Timing} {devices : List Device} {network : Network P}
    (built : Network.build classes template timing devices = .ok network) :
    let catalogue := (Catalogue.empty registry).addTables tables
    (∀ inside, network.level.Within inside → ∃ own number,
        Level.Unfolds template none network.level own number inside) ∧
      (∀ own, Template.Within classes template own → ∃ number inside,
        Level.Unfolds template none network.level own number inside) ∧
      (∀ own number inside, Level.Unfolds template none network.level own number inside →
        Template.Within classes template own ∧ inside.BoundAs classes own) ∧
      ∀ flag,
        (∃ inside, network.level.Within inside ∧ ∃ proc ∈ inside.procs,
            ∃ connection ∈ proc.head.inputs, ∃ declaration,
              proc.declaration? connection.destination = some declaration ∧
                declaration.has flag = true) ↔
          ∃ own, Template.Within classes template own ∧ ∃ spec ∈ own.procs,
            ∃ input ∈ spec.inputs, ∃ description var,
              classes.get? spec.className = some description ∧
                description.variableIndex? input.var = some var ∧
                  catalogue.Carries classes description var flag := by
  intro catalogue
  have wellFormed : catalogue.WellFormed := (Catalogue.wellFormed_addTables registry tables).1
  have nested := (Build.buildNested_of_build built).1
  have levels := fun inside (within : network.level.Within inside) =>
    Build.exists_unfolds_of_buildNested nested within
  have templates := fun own (within : Template.Within classes template own) =>
    Build.exists_unfolds_of_within within nested
  have boundAs : ∀ own number inside,
      Level.Unfolds template none network.level own number inside →
        Template.Within classes template own ∧ inside.BoundAs classes own :=
    fun own number inside unfolds => ⟨Build.within_of_unfolds nested unfolds,
      Build.forall_unfolds_of_buildNested
        (motive := fun own _ inside => inside.BoundAs classes own)
        (fun _ _ _ _ _ _ _ levelBuilt => Build.boundAs_of_buildLevel levelBuilt) nested unfolds⟩
  refine ⟨levels, templates, boundAs, fun flag => ⟨?_, ?_⟩⟩
  · rintro ⟨inside, within, proc, member, connection, isInput, declaration, declared, flagged⟩
    obtain ⟨own, number, unfolds⟩ := levels inside within
    obtain ⟨isInside, bound⟩ := boundAs own number inside unfolds
    obtain ⟨spec, listed, ofSpec⟩ := bound.each proc member
    obtain ⟨input, isAsked, named⟩ := exists_of_mem_forall₂ ofSpec.bound isInput
    exact ⟨own, isInside, spec, listed, input, isAsked, proc.description, connection.destination,
      ofSpec.known, named,
      (wellFormed.has_iff_carries finished ofSpec.known declared flag).mp flagged⟩
  · rintro ⟨own, isInside, spec, listed, input, isAsked, description, var, known, named, carried⟩
    obtain ⟨number, inside, unfolds⟩ := templates own isInside
    obtain ⟨proc, member, ofSpec⟩ := (boundAs own number inside unfolds).2.all spec listed
    obtain rfl := Option.some.inj (known.symm.trans ofSpec.known)
    obtain ⟨connection, isInput, alsoNamed⟩ := exists_of_mem_forall₂ ofSpec.bound.flip isAsked
    obtain rfl : var = connection.destination := Option.some.inj (named.symm.trans alsoNamed)
    have isDeclared : (proc.declaration? connection.destination).isSome = true :=
      Proc.declaration?_isSome named
    obtain ⟨declaration, declared⟩ := Option.isSome_iff_exists.mp isDeclared
    exact ⟨inside, unfolds.within, proc, member, connection, isInput, declaration, declared,
      (wellFormed.has_iff_carries finished known declared flag).mpr carried⟩

namespace Plugs

/-- A class with a variable that takes no connection, and a subnet with a variable for that one,
which has no flags of its own. -/
def tables : List (List (String × Toml)) :=
  let number := fun (label : String) (further : List (String × Toml)) =>
    Descriptions.described label "double" "" further
  [[("classes", .table
      [Descriptions.plainClass "number"
        [number "value" (Descriptions.flagged ["no_src"]), number "out" []]]),
    ("subnets", .table [Shells.shell "box" [("class", .string "number")]
      [Shells.standsFor "level" "core.value" []]])]]

/-- The subnet, finished. -/
def box : ClassDescription Builtin :=
  ⟨"box", [⟨"level", "", some .double, .single .noSource, none, false, some ⟨"core", "value"⟩⟩], [],
    .subnet (Shells.core "number" none), none⟩

/-- The class set that the tables finish with. -/
def classes : ClassSet Builtin :=
  let number := fun (label : String) (flags : FlagSet) =>
    (⟨label, "", some .double, flags, none, false, none⟩ : Declaration)
  ⟨[⟨"number", [number "value" (.single .noSource), number "out" .empty], [],
    .plain Builtin.numberClass, none⟩, box]⟩

theorem finish_eq :
    ((Catalogue.empty Registry.builtin).addTables tables).finish = .ok classes :=
  (Catalogue.wellFormed_addTables Registry.builtin tables).1.finish_eq_ok.mpr
    ⟨Catalogue.resolveAll_of_resolveRound rfl, rfl⟩

theorem box_carries :
    ((Catalogue.empty Registry.builtin).addTables tables).Carries classes box 0 .noSource :=
  ⟨_, _, .forward (List.mem_of_getElem? (i := 0) rfl) rfl rfl rfl rfl rfl rfl rfl
    (.native (List.mem_of_getElem? (i := 0) rfl) rfl), _,
    List.mem_append_right _ (List.mem_singleton_self _), rfl⟩

/-- A constant that another one and a box read, through variables that take no connection. -/
def template : Template :=
  ⟨[⟨"base", "number", .empty, [], none, none, none⟩,
    ⟨"number", "number", .empty, [⟨"value", "base.out"⟩], none, none, none⟩,
    ⟨"box", "box", .empty, [⟨"level", "base.out"⟩], none, none, none⟩], []⟩

end Plugs

/-- The connection of the box leads to a variable that stands for one with the flag, and the
template asks for it. -/
theorem plugs_bound :
    let catalogue := (Catalogue.empty Registry.builtin).addTables Plugs.tables
    catalogue.finish = .ok Plugs.classes ∧ ∃ network : Network Builtin,
      Network.build Plugs.classes Plugs.template .standard [] = .ok network ∧
        network.level.BoundAs Plugs.classes Plugs.template ∧
          ∃ inside, network.level.Within inside ∧ ∃ proc ∈ inside.procs,
            ∃ connection ∈ proc.head.inputs, ∃ declaration,
              proc.declaration? connection.destination = some declaration ∧
                declaration.has .noSource = true := by
  have built : Network.build Plugs.classes Plugs.template .standard [] = .ok _ := rfl
  obtain ⟨-, -, boundAs, asked⟩ :=
    destinations_as_written Registry.builtin Plugs.tables Plugs.finish_eq built
  refine ⟨Plugs.finish_eq, _, built, (boundAs _ _ _ (.self _ _ _)).2, (asked .noSource).mpr ?_⟩
  exact ⟨_, .self _, _, List.mem_of_getElem? (i := 2) rfl, _, List.mem_cons_self, Plugs.box, 0, rfl,
    rfl, Plugs.box_carries⟩

/-- A network is built with connections to a variable that has the flag of those that take none,
and to one that stands for it. -/
theorem closed_variables_connected :
    let catalogue := (Catalogue.empty Registry.builtin).addTables Plugs.tables
    catalogue.finish = .ok Plugs.classes ∧ ∃ network : Network Builtin,
      Network.build Plugs.classes Plugs.template .standard [] = .ok network ∧
        network.level.procs.map (fun proc => (proc.label, proc.head.inputs.map fun connection =>
            (proc.declaration? connection.destination).map (·.has .noSource))) =
          [("base", []), ("number", [some true]), ("box", [some true])] := by
  have built : Network.build Plugs.classes Plugs.template .standard [] = .ok _ := rfl
  exact ⟨Plugs.finish_eq, _, built, by decide +kernel⟩

end SignalNet
