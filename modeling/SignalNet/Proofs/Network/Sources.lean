import SignalNet.Proofs.Network.Forwarding

/-!
Contract: every variable of a native proc that needs a connection is fed by one.

A level refuses a variable that needs a connection and has none, unless the subnet around
the level exposes it. The variable that exposes it has its flags, so it needs a connection
itself, and it leads to it: the level around the subnet is left with the same question. The
root exposes nothing, so the question is answered on some level on the way outwards.

Owns: what the checks of one level leave open (`Level.Awaits`), the step outwards
(`exists_requires_of_awaits`), and that built networks leave nothing open (`sources_fed`).
-/

set_option autoImplicit false

namespace SignalNet

variable {P : Type}

/-- The labels of a class tell its variables apart, and the variables of subnets inherit
from those that they stand for. -/
structure ClassSet.Inherits (classes : ClassSet P) : Prop where
  nodup_vars : ∀ label description, classes.get? label = some description →
    (description.vars.map (·.label)).Nodup
  each : ∀ label description template, classes.get? label = some description →
    description.kind = .subnet template → ∀ declaration ∈ description.vars,
      ∃ read, Declaration.Inherits classes template read declaration

/-- A variable of a proc needs a connection. -/
def Proc.Requires (proc : Proc P) (var : Nat) : Prop :=
  ∃ declaration, proc.declaration? var = some declaration ∧ declaration.has .source = true

/-- A terminal is left to the subnet around a level: a variable that needs a connection leads
to it, and is exposed. -/
def Level.Awaits (level : Level P) (exposed : List VarRef) (terminal : Terminal) : Prop :=
  ∃ reference ∈ exposed, ∃ (position : Nat) (proc : Proc P) (var : Nat),
    level.procs[position]? = some proc ∧ proc.label = reference.proc ∧
      proc.variableIndex? reference.var = some var ∧ proc.Requires var ∧
        terminal ∈ proc.terminals var

/-- A terminal of a native proc with a head is fed in a network: the proc has a connection
for its variable, or a subnet of the network, with that proc at some depth inside, has a
connection for a variable that leads to the terminal. -/
def Level.Feeds (level inside : Level P) (head : ProcHead P) (terminal : Terminal) : Prop :=
  (∃ connection ∈ head.inputs, connection.destination = terminal.var) ∨
    ∃ around proc below connection, level.Within around ∧ proc ∈ around.procs ∧
      proc.inner? = some below ∧ below.Within inside ∧ connection ∈ proc.head.inputs ∧
        terminal ∈ proc.terminals connection.destination

theorem Level.Feeds.outwards {level inside below : Level P} {head : ProcHead P}
    {terminal : Terminal} (feeds : below.Feeds inside head terminal) {proc : Proc P}
    (member : proc ∈ level.procs) (isSubnet : proc.inner? = some below) :
    level.Feeds inside head terminal := by
  rcases feeds with own | ⟨around, other, under, connection, within, rest⟩
  · exact .inl own
  · exact .inr ⟨around, other, under, connection, .inner member isSubnet within, rest⟩

namespace Build

/-! ## One level -/

theorem fed_of_checkSources {exposed : List VarRef} {procs : List (Proc P)}
    (checked : checkSources exposed procs = .ok ()) {proc : Proc P} (member : proc ∈ procs)
    {var : Nat} {declaration : Declaration} (isVariable : proc.declaration? var = some declaration)
    (required : declaration.has .source = true) :
    (∃ connection ∈ proc.head.inputs, connection.destination = var) ∨
      ⟨proc.label, declaration.label⟩ ∈ exposed := by
  have accepted := forM_eq_ok.mp (forM_eq_ok.mp checked proc member) (declaration, var)
    (List.mem_zipIdx_iff_getElem?.mpr isVariable)
  have fed : isFed exposed proc var declaration.label = true := by
    by_contra unfed
    simp [required, unfed] at accepted
  rw [isFed, Bool.or_eq_true, List.any_eq_true, List.contains_iff_mem] at fed
  simpa only [beq_iff_eq] using fed

section

variable [Processor P] {environment : Environment P} {inner : LevelBuilder P}
  {template : Template} {replica : Option Nat} {exposed : List VarRef}
  {store middle after : Store P} {created : List (Proc P × ProcSpec)} {level : Level P}

/-- Where a variable needs a connection, it has one or leaves what it leads to to the subnet
around the level. -/
theorem Assembled.connected_or_awaits
    (assembled : Assembled environment inner template replica exposed store created middle level
      after) (inherits : environment.classes.Inherits) {proc : Proc P}
    (member : proc ∈ level.procs) {var : Nat} (required : proc.Requires var)
    {terminal : Terminal} (leads : terminal ∈ proc.terminals var) :
    (∃ connection ∈ proc.head.inputs, connection.destination = var) ∨
      level.Awaits exposed terminal := by
  obtain ⟨declaration, isVariable, needed⟩ := required
  refine (fed_of_checkSources assembled.fed member isVariable needed).imp_right fun isExposed => ?_
  obtain ⟨position, there⟩ := List.mem_iff_getElem?.mp member
  obtain ⟨spec, -, -, known⟩ := assembled.exists_spec member
  have indexed : proc.variableIndex? declaration.label = some var :=
    ClassDescription.variableIndex?_label (inherits.nodup_vars _ _ known) isVariable
  exact ⟨_, isExposed, position, proc, var, there, rfl, indexed,
    ⟨declaration, isVariable, needed⟩, leads⟩

/-! ## One level further out -/

/-- What the inside of a subnet leaves to it, one of its variables leads to, and that one
needs a connection. -/
theorem exists_requires_of_awaits {registry : Registry P}
    (coherent : environment.classes.Coherent registry) (inherits : environment.classes.Inherits)
    {depth : Nat}
    (assembled : Assembled environment (buildNested environment depth) template replica exposed
      store created middle level after) {head : ProcHead P} {procs : List (Proc P)}
    {order : List Nat} {presets : List NetworkPreset} {targets : List (List (Nat × Nat))}
    (member : .subnet head procs order presets targets ∈ level.procs) {terminal : Terminal}
    (awaits : Level.Awaits ⟨procs, order, presets⟩ (head.description.vars.filterMap (·.target))
      terminal) :
    ∃ var, (Proc.subnet head procs order presets targets).Requires var ∧
      terminal ∈ (Proc.subnet head procs order presets targets).terminals var := by
  obtain ⟨reference, isExposed, position, proc, index, there, labelled, indexed,
    ⟨found, isFound, needed⟩, leads⟩ := awaits
  obtain ⟨declaration, listed, isTarget⟩ := List.mem_filterMap.mp isExposed
  obtain ⟨var, atVar⟩ := List.mem_iff_getElem?.mp listed
  obtain ⟨below, kind, each⟩ := forwards_of_assembled coherent assembled _ _ _ _ _ member
  obtain ⟨addresses, atTargets, target, spec, innerClass, place, named, numbers, isTarget',
    isSpec, isInner, isIndex, isNamed, -, -, voices⟩ := exists_getElem?_of_forall₂ each atVar
  obtain rfl := Option.some.inj (isTarget.symm.trans isTarget')
  -- the proc is one of the voices, so its variable is the one that the target names
  obtain rfl := voices.description_eq there labelled
  obtain rfl := Option.some.inj (isIndex.symm.trans indexed)
  obtain rfl := Option.some.inj (isFound.symm.trans isNamed)
  refine ⟨var, ⟨declaration, atVar, ?_⟩, ?_⟩
  · obtain ⟨outerSpec, -, -, known⟩ := assembled.exists_spec member
    obtain ⟨read, inheritsHere⟩ := inherits.each _ _ _ known kind declaration listed
    have isFound' : proc.description.declaration? reference.var = some found := by
      rw [ClassDescription.declaration?_eq_bind, isIndex, Option.bind_some]
      exact isNamed
    rw [inheritsHere.has_eq isTarget isSpec isInner isFound', needed, Bool.or_true]
  · rw [Proc.terminals, atTargets, Option.getD_some, List.mem_flatMap]
    exact ⟨(position, place), voices.complete position proc there labelled,
      mem_terminalsAt.mpr ⟨proc, there, leads⟩⟩

/-- What the inside of a subnet leaves to it is fed there, or is left further out. -/
theorem feeds_or_awaits_of_awaits {registry : Registry P}
    (coherent : environment.classes.Coherent registry) (inherits : environment.classes.Inherits)
    {depth : Nat}
    (assembled : Assembled environment (buildNested environment depth) template replica exposed
      store created middle level after) {outer : ProcHead P} {procs : List (Proc P)}
    {order : List Nat} {presets : List NetworkPreset} {targets : List (List (Nat × Nat))}
    (member : .subnet outer procs order presets targets ∈ level.procs) {inside : Level P}
    (within : Level.Within ⟨procs, order, presets⟩ inside) (head : ProcHead P)
    {terminal : Terminal}
    (awaits : Level.Awaits ⟨procs, order, presets⟩ (outer.description.vars.filterMap (·.target))
      terminal) : level.Feeds inside head terminal ∨ level.Awaits exposed terminal := by
  obtain ⟨var, required, leads⟩ :=
    exists_requires_of_awaits coherent inherits assembled member awaits
  rcases assembled.connected_or_awaits inherits member required leads with connected | further
  · obtain ⟨connection, isInput, rfl⟩ := connected
    exact .inl (.inr ⟨level, _, _, connection, .self level, member, rfl, within, isInput, leads⟩)
  · exact .inr further

/-! ## All levels -/

/-- A variable of a native proc that needs a connection is fed inside the level that was
built, or is left to the subnet around it. -/
theorem feeds_or_awaits {registry : Registry P}
    (coherent : environment.classes.Coherent registry) (inherits : environment.classes.Inherits)
    {depth : Nat}
    (built : buildNested environment depth template replica exposed store = .ok (level, after))
    {inside : Level P} (within : level.Within inside) {head : ProcHead P} {slot : Nat}
    (member : .native head slot ∈ inside.procs) {var : Nat}
    (required : (Proc.native head slot).Requires var) :
    level.Feeds inside head ⟨slot, var⟩ ∨ level.Awaits exposed ⟨slot, var⟩ := by
  -- every level outwards from the proc takes over what the one before left to it
  induction depth generalizing template replica exposed store after level with
  | zero => cases built
  | succ depth inductionHypothesis =>
      obtain ⟨created, middle, assembled⟩ := assembled_of_buildLevel built
      cases within with
      | self =>
          have leads : ⟨slot, var⟩ ∈ (Proc.native head slot).terminals var := by
            rw [Proc.terminals]
            exact List.mem_singleton_self _
          exact (assembled.connected_or_awaits inherits member required leads).imp_left .inl
      | @inner _ proc below _ onLevel isSubnet deeper =>
          cases proc with
          | native => cases isSubnet
          | subnet outer procs order presets targets =>
              cases isSubnet
              obtain ⟨spec, template, before, next, -, -, belowBuilt, -⟩ :=
                assembled.subnet_of_mem onLevel
              rcases inductionHypothesis belowBuilt deeper with fed | awaits
              · exact .inl (fed.outwards onLevel rfl)
              · exact feeds_or_awaits_of_awaits coherent inherits assembled onLevel deeper head
                  awaits

end

end Build

/-- Over the class set that tables with distinct keys finish with, such as those that texts
read as (`Toml.distinct_of_parse?`), every built network feeds each variable of each native
proc at any depth that needs a connection: the proc has one for it, or a subnet around the
proc has one for a variable that leads to it. -/
theorem sources_fed [Processor P] (registry : Registry P) {tables : List (List (String × Toml))}
    (distinct : ∀ table ∈ tables, (Toml.table table).Distinct) {classes : ClassSet P}
    (finished : ((Catalogue.empty registry).addTables tables).finish = .ok classes)
    {template : Template} {timing : Timing} {devices : List Device} {network : Network P}
    (built : Network.build classes template timing devices = .ok network) :
    ∀ inside, network.level.Within inside → ∀ head slot, .native head slot ∈ inside.procs →
      ∀ (var : Nat) (declaration : Declaration), head.description.vars[var]? = some declaration →
        declaration.has .source = true → network.level.Feeds inside head ⟨slot, var⟩ := by
  intro inside within head slot member var declaration listed needed
  obtain ⟨wellFormed, -⟩ := Catalogue.wellFormed_addTables registry tables
  have declared := Catalogue.declared_addTables registry tables
  have inherits : classes.Inherits :=
    { nodup_vars := fun _ _ found => wellFormed.nodup_vars declared
        (Catalogue.nodup_labels_addTables registry distinct) finished found
      each := fun _ _ _ found isSubnet final member => by
        obtain ⟨subnet, -, -, -, each⟩ := wellFormed.inherits declared finished found isSubnet
        obtain ⟨read, -, here⟩ := exists_of_mem_forall₂ each member
        exact ⟨read, here⟩ }
  rcases Build.feeds_or_awaits (wellFormed.coherent finished) inherits
    (Build.buildNested_of_build built).1 within member ⟨declaration, listed, needed⟩ with
    fed | ⟨_, isExposed, _⟩
  · exact fed
  · exact absurd isExposed List.not_mem_nil

/-- The number in the second voice of the outer shell has no connection itself. The shell has
one, two levels further out. -/
theorem shells_fed :
    (∀ table ∈ Shells.tables, (Toml.table table).Distinct) ∧
      ((Catalogue.empty Registry.builtin).addTables Shells.tables).finish = .ok Shells.classes ∧
        ∃ (network : Network Builtin) (inside : Level Builtin) (head : ProcHead Builtin)
            (declaration : Declaration),
          Network.build Shells.classes Shells.template .standard [] = .ok network ∧
            network.level.Within inside ∧ .native head 2 ∈ inside.procs ∧
              head.replica = some 1 ∧ head.inputs = [] ∧
                head.description.vars[0]? = some declaration ∧
                  declaration.has .source = true ∧ network.level.Feeds inside head ⟨2, 0⟩ := by
  have distinct : ∀ table ∈ Shells.tables, (Toml.table table).Distinct := by decide
  have built : Network.build Shells.classes Shells.template .standard [] = .ok _ := rfl
  have fed := sources_fed Registry.builtin distinct Shells.finish_eq built _
    (.inner (List.mem_of_getElem? (i := 1) rfl) rfl
      (.inner (List.mem_of_getElem? (i := 1) rfl) rfl (.self _)))
    _ 2 (List.mem_of_getElem? (i := 0) rfl) 0 _ rfl rfl
  refine ⟨distinct, Shells.finish_eq, _, _, _, _, built, ?_, List.mem_of_getElem? (i := 0) rfl,
    rfl, rfl, rfl, rfl, fed⟩
  exact .inner (List.mem_of_getElem? (i := 1) rfl) rfl
    (.inner (List.mem_of_getElem? (i := 1) rfl) rfl (.self _))

end SignalNet
