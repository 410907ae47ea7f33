import SignalNet.Proofs.Network.Twins

/-!
Contract: which procs a built network has.

The procs of a level are the instances of the specs of its template, in their order: the
numbered voices of a spec that asks for some, and one proc with the number of the level for
every other spec. The levels of a network and their templates descend together, and below a
voice no spec asks for voices. So the label and the number tell the procs of a level apart, and
a number is handed down unchanged.

Owns: `Template.instances`, `Level.Unfolds`, what is true of a level and the template that it
was built from (`Level.Replicated`), and the law of replication (`build_replicates`).
-/

set_option autoImplicit false

namespace SignalNet

variable {P : Type}

/-! ## Instances of specs -/

/-- The numbers of the procs that come from a spec, on a level that has a number or not. -/
def ProcSpec.numbers (spec : ProcSpec) (around : Option Nat) : List (Option Nat) :=
  match spec.polyCount with
  | none => [around]
  | some count => (List.range (max count 1)).map some

/-- The procs that a template describes, each as its spec and its number. -/
def Template.instances (template : Template) (around : Option Nat) :
    List (ProcSpec × Option Nat) :=
  template.procs.flatMap fun spec => (spec.numbers around).map fun number => (spec, number)

/-- A proc comes from a spec and has a number: it has the label of the spec and is of the class
that the spec names. -/
def Proc.IsInstance (classes : ClassSet P) (proc : Proc P) (item : ProcSpec × Option Nat) : Prop :=
  ∃ description, classes.get? item.1.className = some description ∧
    proc.origin = (item.1.label, item.2, description)

theorem ProcSpec.nodup_numbers (spec : ProcSpec) (around : Option Nat) :
    (spec.numbers around).Nodup := by
  unfold numbers
  split
  · exact List.nodup_singleton around
  · exact List.nodup_range.map (Option.some_injective Nat)

/-- With distinct labels, no two procs of a template have the same label and number. -/
theorem Template.nodup_instances {template : Template}
    (distinct : (template.procs.map (·.label)).Nodup) (around : Option Nat) :
    ((template.instances around).map fun item => (item.1.label, item.2)).Nodup := by
  rw [instances, List.map_flatMap, List.nodup_flatMap]
  constructor
  · intro spec _
    rw [List.map_map]
    exact (spec.nodup_numbers around).map fun first second same => congrArg Prod.snd same
  · rw [List.Nodup, List.pairwise_map] at distinct
    refine distinct.imp fun {first second} different entry inFirst inSecond => ?_
    simp only [List.map_map, List.mem_map, Function.comp_apply] at inFirst inSecond
    obtain ⟨number, -, rfl⟩ := inFirst
    obtain ⟨other, -, same⟩ := inSecond
    exact different (congrArg Prod.fst same).symm

namespace Build

/-- A class has no more procs on a level than it allows. -/
theorem count_le_of_checkPolyLimits {procs : List (Proc P)}
    (limited : checkPolyLimits procs = .ok ()) {proc : Proc P} (member : proc ∈ procs)
    {limit : Nat} (allows : proc.description.polyLimit = some limit) :
    (procs.map (·.description.label)).count proc.description.label ≤ limit := by
  have own := forM_eq_ok.mp limited proc member
  simp only [allows] at own
  split at own
  · cases own
  · rename_i within
    rw [List.count_eq_length_filter, List.filter_map, List.length_map]
    exact Nat.not_lt.mp within

theorem voices_eq_numbers {description : ClassDescription P} {spec : ProcSpec}
    {around : Option Nat} {numbers : List (Option Nat)}
    (voiced : voices description spec around = .ok numbers) : numbers = spec.numbers around := by
  unfold voices at voiced
  unfold ProcSpec.numbers
  cases asked : spec.polyCount with
  | none =>
      rw [asked] at voiced
      exact (Except.ok.inj voiced).symm
  | some count =>
      simp only [asked] at voiced
      split at voiced
      · cases voiced
      · split at voiced
        · cases voiced
        · exact (Except.ok.inj voiced).symm

theorem polyCount_of_voices {description : ClassDescription P} {spec : ProcSpec} {number : Nat}
    {numbers : List (Option Nat)} (voiced : voices description spec (some number) = .ok numbers) :
    spec.polyCount = none := by
  unfold voices at voiced
  cases asked : spec.polyCount with
  | none => rfl
  | some count =>
      simp only [asked, Option.isSome_some, if_true] at voiced
      split at voiced <;> cases voiced

section

variable [Processor P] {environment : Environment P} {inner : LevelBuilder P}
  {around : Option Nat} {store after : Store P}

/-- The created procs are the instances of the specs, in order. -/
theorem instances_of_createProcs {specs : List ProcSpec} {created : List (Proc P × ProcSpec)}
    (completed : createProcs environment inner around specs store = .ok (created, after)) :
    List.Forall₂ (Proc.IsInstance environment.classes) (created.map (·.1))
        (specs.flatMap fun spec => (spec.numbers around).map fun number => (spec, number)) ∧
      ∀ number, around = some number → ∀ spec ∈ specs, spec.polyCount = none := by
  induction specs generalizing store created with
  | nil =>
      cases completed
      exact ⟨.nil, fun _ _ => List.forall_mem_nil _⟩
  | cons spec rest inductionHypothesis =>
      rw [createProcs] at completed
      cases known : environment.classes.get? spec.className with
      | none =>
          rw [known] at completed
          cases completed
      | some description =>
          rw [known] at completed
          obtain ⟨numbers, voiced, completed⟩ := bind_eq_ok.mp completed
          obtain ⟨⟨first, middle⟩, made, completed⟩ := bind_eq_ok.mp completed
          obtain ⟨⟨others, last⟩, remaining, completed⟩ := bind_eq_ok.mp completed
          cases completed
          obtain ⟨isRest, plain⟩ := inductionHypothesis remaining
          have isFirst : List.Forall₂ (Proc.IsInstance environment.classes) (first.map (·.1))
              ((spec.numbers around).map fun number => (spec, number)) := by
            have origins := map_eq_map_iff_forall₂.mp (origins_of_createVoices made)
            rw [← voices_eq_numbers voiced, List.forall₂_map_right_iff]
            exact origins.imp fun proc number isOrigin => ⟨description, known, isOrigin⟩
          refine ⟨?_, ?_⟩
          · rw [List.map_append, List.flatMap_cons]
            exact List.rel_append isFirst isRest
          · rintro number rfl
            exact List.forall_mem_cons.mpr ⟨polyCount_of_voices voiced, plain number rfl⟩

/-- The procs of a level are the instances of the specs of its template, in order. -/
theorem instances_of_buildLevel {template : Template} {exposed : List VarRef} {level : Level P}
    (built : buildLevel environment inner template around exposed store = .ok (level, after)) :
    List.Forall₂ (Proc.IsInstance environment.classes) level.procs (template.instances around) ∧
      ∀ number, around = some number → ∀ spec ∈ template.procs, spec.polyCount = none := by
  obtain ⟨created, middle, made, assembled⟩ := createProcs_of_buildLevel built
  obtain ⟨areInstances, plain⟩ := instances_of_createProcs made
  refine ⟨?_, plain⟩
  have byOrigin (procs : List (Proc P)) :
      List.Forall₂ (Proc.IsInstance environment.classes) procs (template.instances around) ↔
        List.Forall₂ (fun origin (item : ProcSpec × Option Nat) => ∃ description,
          environment.classes.get? item.1.className = some description ∧
            origin = (item.1.label, item.2, description)) (procs.map Proc.origin)
          (template.instances around) := by
    rw [List.forall₂_map_left_iff]
    rfl
  rw [byOrigin, origins_of_bindInputs assembled.bound, ← byOrigin]
  exact areInstances

end

end Build

/-! ## Levels with their templates -/

/-- A network inside another one, each with the template that it was built from and the number
of the subnet around it. -/
inductive Level.Unfolds : Template → Option Nat → Level P → Template → Option Nat → Level P →
    Prop where
  | self (template : Template) (around : Option Nat) (level : Level P) :
      Unfolds template around level template around level
  | inner {template own last : Template} {around number : Option Nat} {level below inside : Level P}
      {proc : Proc P} (member : proc ∈ level.procs) (isSubnet : proc.inner? = some below)
      (isOwn : proc.description.kind = .subnet own)
      (deeper : Unfolds own proc.head.replica below last number inside) :
      Unfolds template around level last number inside

theorem Level.Unfolds.within {template own : Template} {around number : Option Nat}
    {level inside : Level P} (unfolds : Unfolds template around level own number inside) :
    level.Within inside := by
  induction unfolds with
  | self _ _ level => exact .self level
  | inner member isSubnet _ _ inductionHypothesis =>
      exact .inner member isSubnet inductionHypothesis

namespace Build

variable [Processor P] {environment : Environment P} {depth : Nat} {template : Template}
  {around : Option Nat} {exposed : List VarRef} {store after : Store P} {level inside : Level P}

/-- What building guarantees for a level, its template and its number holds of all levels inside
a built one. -/
theorem forall_unfolds_of_buildNested {motive : Template → Option Nat → Level P → Prop}
    (holds : ∀ depth template around exposed store level after,
      buildLevel environment (buildNested environment depth) template around exposed store =
        .ok (level, after) → motive template around level)
    (built : buildNested environment depth template around exposed store = .ok (level, after))
    {own : Template} {number : Option Nat}
    (unfolds : Level.Unfolds template around level own number inside) :
    motive own number inside := by
  induction depth generalizing template around exposed store after level with
  | zero => cases built
  | succ depth inductionHypothesis =>
      cases unfolds with
      | self => exact holds _ _ _ _ _ _ _ built
      | @inner _ own _ _ _ _ below _ proc member isSubnet isOwn deeper =>
          obtain ⟨created, middle, assembled⟩ := assembled_of_buildLevel built
          cases proc with
          | native => cases isSubnet
          | subnet =>
              cases isSubnet
              obtain ⟨spec, template, before, next, -, kind, belowBuilt, -⟩ :=
                assembled.subnet_of_mem member
              obtain rfl := ClassKind.subnet.inj (isOwn.symm.trans kind)
              exact inductionHypothesis belowBuilt deeper

/-- Every level inside a built one has a template. -/
theorem exists_unfolds_of_buildNested
    (built : buildNested environment depth template around exposed store = .ok (level, after))
    (within : level.Within inside) :
    ∃ own number, Level.Unfolds template around level own number inside := by
  induction depth generalizing template around exposed store after level with
  | zero => cases built
  | succ depth inductionHypothesis =>
      obtain ⟨created, middle, assembled⟩ := assembled_of_buildLevel built
      cases within with
      | self => exact ⟨template, around, .self _ _ _⟩
      | @inner _ proc _ _ member isSubnet deeper =>
          cases proc with
          | native => cases isSubnet
          | subnet =>
              cases isSubnet
              obtain ⟨spec, below, before, next, -, kind, belowBuilt, -⟩ :=
                assembled.subnet_of_mem member
              obtain ⟨own, number, unfolds⟩ := inductionHypothesis belowBuilt deeper
              exact ⟨own, number, .inner member rfl kind unfolds⟩

end Build

/-! ## Numbers below a voice -/

/-- Where no spec asks for voices, all procs have the number of the level. -/
theorem Template.replica_of_instances {classes : ClassSet P} {template : Template}
    {around : Option Nat} {procs : List (Proc P)}
    (areInstances : List.Forall₂ (Proc.IsInstance classes) procs (template.instances around))
    (plain : ∀ spec ∈ template.procs, spec.polyCount = none) :
    ∀ proc ∈ procs, proc.head.replica = around := by
  intro proc member
  obtain ⟨⟨spec, number⟩, isItem, description, -, isOrigin⟩ :=
    exists_of_mem_forall₂ areInstances.flip member
  obtain ⟨other, listed, ofSpec⟩ := List.mem_flatMap.mp isItem
  obtain ⟨voice, isVoice, same⟩ := List.mem_map.mp ofSpec
  cases same
  rw [ProcSpec.numbers, plain spec listed, List.mem_singleton] at isVoice
  exact (congrArg (·.2.1) isOrigin).trans isVoice

/-- A number is handed down to every level below. -/
theorem Level.Unfolds.number_eq {classes : ClassSet P} {template own : Template}
    {around number : Option Nat} {level inside : Level P} {outer : Nat}
    (unfolds : Unfolds template around level own number inside) (isVoice : around = some outer)
    (each : ∀ own number inside, Unfolds template around level own number inside →
      List.Forall₂ (Proc.IsInstance classes) inside.procs (own.instances number) ∧
        ∀ voice, number = some voice → ∀ spec ∈ own.procs, spec.polyCount = none) :
    number = some outer := by
  induction unfolds with
  | self => exact isVoice
  | inner member isSubnet isOwn _ inductionHypothesis =>
      obtain ⟨areInstances, plain⟩ := each _ _ _ (.self _ _ _)
      have handed := Template.replica_of_instances areInstances (plain outer isVoice) _ member
      exact inductionHypothesis (handed.trans isVoice) fun own number inside deeper =>
        each own number inside (.inner member isSubnet isOwn deeper)

theorem Level.Unfolds.trans {template own last : Template} {around number further : Option Nat}
    {level inside deep : Level P} (unfolds : Unfolds template around level own number inside)
    (deeper : Unfolds own number inside last further deep) :
    Unfolds template around level last further deep := by
  induction unfolds with
  | self => exact deeper
  | inner member isSubnet isOwn _ inductionHypothesis =>
      exact .inner member isSubnet isOwn (inductionHypothesis deeper)

/-! ## Replication -/

/-- A level has the procs that its template describes. -/
structure Level.Replicated (classes : ClassSet P) (store : Store P) (template : Template)
    (around : Option Nat) (level : Level P) : Prop where
  /-- There is one proc for each number of each spec, in order. -/
  instances : List.Forall₂ (Proc.IsInstance classes) level.procs (template.instances around)
  distinct : (level.procs.map fun proc => (proc.label, proc.head.replica)).Nodup
  /-- Everything in a voice has its number, and no spec in it asks for voices. -/
  handed : ∀ proc ∈ level.procs, ∀ number, proc.head.replica = some number →
    ∀ below own, proc.inner? = some below → proc.description.kind = .subnet own →
      ∀ last further inside, Unfolds own proc.head.replica below last further inside →
        (∀ spec ∈ last.procs, spec.polyCount = none) ∧
          ∀ nested ∈ inside.procs, nested.head.replica = some number
  /-- Voices of one spec differ in their numbers and their own connections only. -/
  alike : ∀ proc ∈ level.procs, ∀ other ∈ level.procs, proc.label = other.label →
    (proc.withInputs []).content (store[·]?) = (other.withInputs []).content (store[·]?)
  limited : ∀ label description limit, classes.get? label = some description →
    description.polyLimit = some limit →
      (level.procs.map (·.description.label)).count label ≤ limit

/-- What building one level guarantees without looking at its cells. -/
theorem Build.layout_of_buildLevel [Processor P] {environment : Environment P} {depth : Nat}
    {template : Template} {around : Option Nat} {exposed : List VarRef} {store after : Store P}
    {level : Level P}
    (built : buildLevel environment (buildNested environment depth) template around exposed store =
      .ok (level, after)) :
    (level.procs.map fun proc => (proc.label, proc.head.replica)).Nodup ∧
      ∀ label description limit, environment.classes.get? label = some description →
        description.polyLimit = some limit →
          (level.procs.map (·.description.label)).count label ≤ limit := by
  obtain ⟨created, middle, assembled⟩ := assembled_of_buildLevel built
  have areInstances := (instances_of_buildLevel built).1
  constructor
  · have same : (level.procs.map fun proc => (proc.label, proc.head.replica)) =
        (template.instances around).map fun item => (item.1.label, item.2) := by
      refine map_eq_map_iff_forall₂.mpr (areInstances.imp fun proc item => ?_)
      rintro ⟨description, -, isOrigin⟩
      exact congrArg (fun origin => (origin.1, origin.2.1)) isOrigin
    rw [same]
    exact Template.nodup_instances (nodup_of_duplicate? assembled.distinct).1 around
  · intro label description limit known allows
    by_cases present : label ∈ level.procs.map (·.description.label)
    · obtain ⟨proc, member, rfl⟩ := List.mem_map.mp present
      obtain ⟨spec, -, -, ofSpec⟩ := assembled.exists_spec member
      have labelled : proc.description.label = spec.className := by
        simpa using List.find?_some ofSpec
      obtain rfl : proc.description = description := by
        rw [labelled, ofSpec] at known
        exact Option.some.inj known
      have sameClasses : level.procs.map (·.description.label) =
          (created.map (·.1)).map (·.description.label) := by
        have origins := congrArg (List.map fun origin => origin.2.2.label)
          (origins_of_bindInputs assembled.bound)
        rwa [List.map_map, List.map_map] at origins
      obtain ⟨item, wasCreated, inputs, rfl⟩ := exists_created_of_bindInputs assembled.bound member
      rw [Proc.description_withInputs] at allows
      rw [sameClasses, Proc.description_withInputs]
      exact count_le_of_checkPolyLimits assembled.limited (List.mem_map_of_mem wasCreated) allows
    · rw [List.count_eq_zero_of_not_mem present]
      exact Nat.zero_le limit

/-- Every level of a built network was built from a template, and it has the procs that its
template describes: for a spec that asks for `n` voices there are procs with the numbers from
`0` to `max n 1 - 1` one after another, for every other spec there is one proc with the number of
the subnet around the level. On no level do two procs have the same label and number. Everything
inside a proc with a number has that number, and comes from specs that ask for no voices. The
voices of one spec are equal to each other, with their cells and everything in them, but for
their numbers and their own connections. And no class has more procs on a level than it
allows. -/
theorem build_replicates [Processor P] {classes : ClassSet P} {template : Template}
    {timing : Timing} {devices : List Device} {network : Network P}
    (built : Network.build classes template timing devices = .ok network) :
    (∀ inside, network.level.Within inside →
        ∃ own number, Level.Unfolds template none network.level own number inside) ∧
      ∀ own number inside, Level.Unfolds template none network.level own number inside →
        inside.Replicated classes network.store own number := by
  have nested := (Build.buildNested_of_build built).1
  have areInstances (own number inside)
      (unfolds : Level.Unfolds template none network.level own number inside) :=
    Build.forall_unfolds_of_buildNested
      (motive := fun own number inside =>
        List.Forall₂ (Proc.IsInstance classes) inside.procs (own.instances number) ∧
          ∀ voice, number = some voice → ∀ spec ∈ own.procs, spec.polyCount = none)
      (fun _ _ _ _ _ _ _ levelBuilt => Build.instances_of_buildLevel levelBuilt) nested unfolds
  refine ⟨fun inside within => Build.exists_unfolds_of_buildNested nested within, ?_⟩
  intro own number inside unfolds
  obtain ⟨distinct, limited⟩ := Build.forall_unfolds_of_buildNested
    (motive := fun _ _ inside =>
      (inside.procs.map fun proc => (proc.label, proc.head.replica)).Nodup ∧
        ∀ label description limit, classes.get? label = some description →
          description.polyLimit = some limit →
            (inside.procs.map (·.description.label)).count label ≤ limit)
    (fun _ _ _ _ _ _ _ levelBuilt => Build.layout_of_buildLevel levelBuilt) nested unfolds
  refine
    { instances := (areInstances own number inside unfolds).1
      distinct := distinct
      handed := ?_
      alike := ?_
      limited := limited }
  · intro proc member voice isVoice below belowTemplate isSubnet isOwn last further deep deeper
    have toBelow := unfolds.trans (.inner member isSubnet isOwn (.self _ _ _))
    have isFurther := deeper.number_eq isVoice fun own number inside between =>
      areInstances own number inside (toBelow.trans between)
    obtain ⟨deepInstances, plain⟩ := areInstances _ _ _ (toBelow.trans deeper)
    exact ⟨plain voice isFurther, fun inner isInner =>
      (Template.replica_of_instances deepInstances (plain voice isFurther) inner isInner).trans
        isFurther⟩
  · intro proc member other alsoMember sameLabel
    exact (Build.twinned_buildNested _ _ _ _ _ _ _ _ nested inside unfolds.within proc member other
      alsoMember sameLabel).content_eq

/-- Inside the outer shell there are two voices of the inner one, and they are alike. -/
theorem shells_replicate :
    ∃ (network : Network Builtin) (inside : Level Builtin) (first second : Proc Builtin),
      Network.build Shells.classes Shells.template .standard [] = .ok network ∧
        Level.Unfolds Shells.template none network.level (Shells.core "inner" (some 2)) none
            inside ∧
          inside.procs = [first, second] ∧ first.head.replica = some 0 ∧
            second.head.replica = some 1 ∧
              (first.withInputs []).content (network.store[·]?) =
                (second.withInputs []).content (network.store[·]?) := by
  have built : Network.build Shells.classes Shells.template .standard [] = .ok _ := rfl
  have replicated := (build_replicates built).2 _ _ _
    (.inner (List.mem_of_getElem? (i := 1) rfl) rfl rfl (.self _ _ _))
  exact ⟨_, _, _, _, built, .inner (List.mem_of_getElem? (i := 1) rfl) rfl rfl (.self _ _ _), rfl,
    rfl, rfl, replicated.alike _ List.mem_cons_self _ (List.mem_of_getElem? (i := 1) rfl) rfl⟩

end SignalNet
