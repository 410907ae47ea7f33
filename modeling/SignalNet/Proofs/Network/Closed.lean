import SignalNet.Proofs.Network.Counterparts
import SignalNet.Proofs.Network.Layout
import SignalNet.Proofs.Network.Schedule

/-!
Contract: all positions in a built network lead to something.

Procs and variables are named by positions once a network is built: in the order of execution, in
connections, and in the targets of a subnet. Each is resolved from labels by a stage of the
builder, so each is in range, and nothing changes it later. The variables of a subnet end at native
variables, whose banks are laid out by their classes, so every variable has a channel.

Owns: `Level.Closed`, that every network inside a built one is closed
(`Build.closed_of_build`), and that every variable has a channel
(`Level.Closed.channelCount_pos`).
-/

set_option autoImplicit false

namespace SignalNet

variable {P : Type}

theorem Proc.isSome_declaration?_iff {proc : Proc P} {var : Nat} :
    (proc.declaration? var).isSome = true ↔ var < proc.description.vars.length := by
  rw [declaration?, isSome_getElem?]

/-- A connection of the proc at a position leads between existing variables of that proc and of
another one. -/
structure Connection.Closed (procs : List (Proc P)) (position : Nat) (proc : Proc P)
    (connection : Connection) : Prop where
  other : connection.sourceProc ≠ position
  destination : (proc.declaration? connection.destination).isSome = true
  source : ∃ source, procs[connection.sourceProc]? = some source ∧
    (source.declaration? connection.sourceVariable).isSome = true

/-- A variable of a subnet forwards somewhere, and only to existing variables of inner procs. -/
structure ForwardsInto (procs : List (Proc P)) (addresses : List (Nat × Nat)) : Prop where
  nonempty : addresses ≠ []
  inner : ∀ address ∈ addresses, ∃ proc, procs[address.1]? = some proc ∧
    (proc.declaration? address.2).isSome = true

/-- All positions on a level are in range: the order of execution has each proc once, and
connections and forwarding targets lead to existing variables. -/
structure Level.Closed (level : Level P) : Prop where
  order_perm : level.order.Perm (List.range level.procs.length)
  connections : ∀ (position : Nat) (proc : Proc P), level.procs[position]? = some proc →
    ∀ connection ∈ proc.head.inputs, connection.Closed level.procs position proc
  forwards : ∀ head procs order presets (targets : List (List (Nat × Nat))),
    .subnet head procs order presets targets ∈ level.procs →
      targets.length = head.description.vars.length ∧
        ∀ addresses ∈ targets, ForwardsInto procs addresses

namespace Build

/-! ## Resolution -/

theorem closed_of_bindInputs {created : List (Proc P × ProcSpec)} {procs : List (Proc P)}
    (bound : bindInputs created = .ok procs) {position : Nat} {proc : Proc P}
    (found : procs[position]? = some proc) {connection : Connection}
    (isInput : connection ∈ proc.head.inputs) : connection.Closed procs position proc := by
  obtain ⟨source, given, wanted, isSource, isGiven, isWanted, -⟩ :=
    connects_of_bindInputs bound (List.mem_of_getElem? found) isInput
  refine ⟨?_, by rw [isWanted, Option.isSome_some],
    source, isSource, by rw [isGiven, Option.isSome_some]⟩
  obtain ⟨sameLength, each⟩ := bindInputs_spec bound
  have below : position < created.length := sameLength ▸ (List.getElem?_eq_some_iff.mp found).1
  obtain ⟨inputs, resolved, there⟩ := each position created[position].1 created[position].2
    (List.getElem?_eq_getElem below)
  obtain rfl := Option.some.inj (found.symm.trans there)
  rw [Proc.inputs_withInputs] at isInput
  obtain ⟨input, -, accepted⟩ := exists_of_mem_mapM resolved isInput
  exact (bound_of_bindInput accepted).other

theorem forwardsInto_of_forwards {spec : ProcSpec} {procs : List (Proc P)}
    {declaration : Declaration} {addresses : List (Nat × Nat)}
    (forwarded : forwards spec procs declaration = .ok addresses) :
    ForwardsInto procs addresses where
  nonempty := by
    rintro rfl
    unfold forwards at forwarded
    split at forwarded
    · cases forwarded
    · dsimp only at forwarded
      split at forwarded
      · cases forwarded
      · rename_i nonempty
        rw [Except.ok.inj forwarded] at nonempty
        exact nonempty rfl
  inner address member := by
    obtain ⟨target, -, each⟩ := forwards_spec forwarded
    obtain ⟨proc, found, -, named⟩ := each address member
    exact ⟨proc, found, Proc.declaration?_isSome named⟩

variable [Processor P] {environment : Environment P} {inner : LevelBuilder P}

theorem closed_of_assembled {template : Template} {replica : Option Nat} {exposed : List VarRef}
    {store middle after : Store P} {created : List (Proc P × ProcSpec)} {level : Level P}
    (assembled : Assembled environment inner template replica exposed store created middle level
      after) : level.Closed where
  order_perm := by
    have ordered := executionOrder_of_releaseOrder (mapError_eq_ok.mp assembled.ordered)
    have isOrder := ordered.perm
    rwa [List.length_map] at isOrder
  connections position proc found connection isInput :=
    closed_of_bindInputs assembled.bound found isInput
  forwards head procs order presets targets member := by
    obtain ⟨spec, below, before, next, -, -, -, forwarded⟩ := assembled.subnet_of_mem member
    refine ⟨(mapM_eq_ok.mp forwarded).length_eq.symm, fun addresses listed => ?_⟩
    obtain ⟨declaration, -, resolved⟩ := exists_of_mem_mapM forwarded listed
    exact forwardsInto_of_forwards resolved

/-- Every network inside a built one is closed. -/
theorem closed_of_build {classes : ClassSet P} {template : Template} {timing : Timing}
    {devices : List Device} {network : Network P}
    (built : Network.build classes template timing devices = .ok network) {inside : Level P}
    (within : network.level.Within inside) : inside.Closed :=
  forall_within_of_buildNested (motive := Level.Closed)
    (fun _ _ _ _ _ _ _ _ _ assembled => closed_of_assembled assembled)
    (buildNested_of_build built).1 within

end Build

/-! ## Channels -/

theorem Store.channelCount_of_cell {store : Store P} {terminal : Terminal} {cell : Cell P}
    (found : store[terminal.slot]? = some cell) (rest : List Terminal) :
    store.channelCount (terminal :: rest) = cell.bank.channelCount terminal.var := by
  rw [channelCount, channels, bank?, found, Option.map_some, Option.bind_some, Bank.channelCount]
  cases cell.bank.vars[terminal.var]? <;> rfl

theorem Store.channelCount_append {store : Store P} {first second : List Terminal}
    (present : 0 < store.channelCount first) :
    store.channelCount (first ++ second) = store.channelCount first := by
  cases first with
  | nil => cases present
  | cons terminal rest => rw [List.cons_append, channelCount_cons, channelCount_cons]

/-- Everything inside a level is closed. -/
def Level.ClosedWithin (level : Level P) : Prop := ∀ inside, level.Within inside → inside.Closed

theorem Level.ClosedWithin.inner {level : Level P} (closed : level.ClosedWithin) {proc : Proc P}
    {below : Level P} (member : proc ∈ level.procs) (isSubnet : proc.inner? = some below) :
    below.ClosedWithin :=
  fun inside within => closed inside (.inner member isSubnet within)

/-- Every variable of a proc has a channel, if everything is closed and the banks are laid out. -/
theorem Level.Closed.channelCount_pos {level : Level P} {store : Store P}
    (closed : level.ClosedWithin)
    (laidOut : store.Obeys Bank.Laid ClassDescription.labels level.natives) {proc : Proc P}
    (member : proc ∈ level.procs) {var : Nat} (declared : (proc.declaration? var).isSome = true) :
    0 < store.channelCount (proc.terminals var) := by
  induction proc generalizing level var with
  | native head slot =>
      have isNative : (head.description, slot) ∈ level.natives :=
        (Level.Within.self level).mem_natives member
      obtain ⟨cell, found, laid⟩ := laidOut _ isNative
      have below : var < head.description.vars.length := Proc.isSome_declaration?_iff.mp declared
      rw [Proc.terminals, Store.channelCount_of_cell found]
      apply laid.channelCount_pos
      rwa [ClassDescription.labels, List.length_map]
  | subnet head procs order presets targets inductionHypothesis =>
      obtain ⟨sameLength, each⟩ :=
        (closed level (.self level)).forwards head procs order presets targets member
      have below : var < targets.length := sameLength ▸ Proc.isSome_declaration?_iff.mp declared
      have isTarget : targets[var]? = some targets[var] := List.getElem?_eq_getElem below
      obtain ⟨nonempty, inner⟩ := each _ (List.getElem_mem below)
      -- the first address decides, and leads to a variable of an inner proc
      obtain ⟨address, others, addresses⟩ := List.exists_cons_of_ne_nil nonempty
      obtain ⟨innerProc, found, innerDeclared⟩ :=
        inner address (addresses ▸ List.mem_cons_self)
      have isInner := List.mem_of_getElem? found
      have innerLaid : store.Obeys Bank.Laid ClassDescription.labels
          (Level.natives ⟨procs, order, presets⟩) :=
        fun native isNative =>
          laidOut native ((Level.Within.inner member rfl (.self _)).natives_subset isNative)
      have innerPos := inductionHypothesis innerProc isInner (closed.inner member rfl) innerLaid
        isInner innerDeclared
      rw [Proc.terminals, isTarget, Option.getD_some, addresses, List.flatMap_cons,
        terminalsAt_of_getElem? found, Store.channelCount_append innerPos]
      exact innerPos

end SignalNet
