import SignalNet.Proofs.Network.Construction
import SignalNet.Proofs.Schema.Coherence

/-!
Contract: the variables that a built network ties together have matching types.

A variable of a subnet forwards to inner variables of its own type, and a connection leads
between types that convert into each other. Over a coherent class set this holds of every
network inside a built one.

Owns: `Level.Linked`, the resolution of connections and of forwarded variables, and that
built networks are linked.
-/

set_option autoImplicit false

namespace SignalNet

variable {P : Type}

/-- A connection of a proc leads between variables of types that connect. -/
def Proc.Connects (procs : List (Proc P)) (proc : Proc P) (connection : Connection) : Prop :=
  ∃ source given wanted, procs[connection.sourceProc]? = some source ∧
    source.declaration? connection.sourceVariable = some given ∧
    proc.declaration? connection.destination = some wanted ∧
    Build.connectable given.type wanted.type = true

/-- Everything in a network is of a class of the set, subnets forward to variables of the
same type, and connections are between types that connect. -/
structure Level.Linked (classes : ClassSet P) (level : Level P) : Prop where
  known : ∀ proc ∈ level.procs, ∃ label, classes.get? label = some proc.description
  forwards : ∀ head procs order presets (targets : List (List (Nat × Nat))),
    .subnet head procs order presets targets ∈ level.procs →
      ∀ (var : Nat) (declaration : Declaration), head.description.vars[var]? = some declaration →
        ∀ target ∈ targets[var]?.getD [], ∃ inner found, procs[target.1]? = some inner ∧
          inner.declaration? target.2 = some found ∧ found.declared = declaration.declared
  connections : ∀ proc ∈ level.procs, ∀ connection ∈ proc.head.inputs,
    proc.Connects level.procs connection

theorem Proc.description_withInputs (proc : Proc P) (inputs : List Connection) :
    (proc.withInputs inputs).description = proc.description := by
  cases proc <;> rfl

theorem Proc.label_withInputs (proc : Proc P) (inputs : List Connection) :
    (proc.withInputs inputs).label = proc.label := by
  cases proc <;> rfl

theorem Proc.inner?_withInputs (proc : Proc P) (inputs : List Connection) :
    (proc.withInputs inputs).inner? = proc.inner? := by
  cases proc <;> rfl

theorem Proc.inputs_withInputs (proc : Proc P) (inputs : List Connection) :
    (proc.withInputs inputs).head.inputs = inputs := by
  cases proc <;> rfl

theorem Proc.declaration?_withInputs (proc : Proc P) (inputs : List Connection) (var : Nat) :
    (proc.withInputs inputs).declaration? var = proc.declaration? var := by
  rw [declaration?, declaration?, description_withInputs]

theorem Proc.declaration?_isSome {proc : Proc P} {label : String} {var : Nat}
    (found : proc.variableIndex? label = some var) : (proc.declaration? var).isSome = true := by
  obtain ⟨below, -⟩ := List.findIdx?_eq_some_iff_getElem.mp found
  rw [declaration?, List.getElem?_eq_getElem below, Option.isSome_some]

namespace Build

/-! ## Connections -/

/-- What the resolution of one connection has found. -/
structure Bound (procs : List (Proc P)) (position : Nat) (proc : Proc P) (input : InputSpec)
    (connection : Connection) : Prop where
  destination : proc.variableIndex? input.var = some connection.destination
  source : ∃ reference, VarRef.parse input.source = .ok reference ∧
    findSource procs reference.proc proc.head.replica = some connection.sourceProc
  other : connection.sourceProc ≠ position
  connects : proc.Connects procs connection

theorem bound_of_bindInput {procs : List (Proc P)} {position : Nat} {proc : Proc P}
    {input : InputSpec} {connection : Connection}
    (bound : bindInput procs position proc input = .ok connection) :
    Bound procs position proc input connection := by
  unfold bindInput at bound
  cases destination : proc.variableIndex? input.var with
  | none =>
      simp only [destination] at bound
      cases bound
  | some index =>
      cases parsed : VarRef.parse input.source with
      | error fault =>
          simp only [destination, parsed] at bound
          cases bound
      | ok reference =>
          simp only [destination, parsed] at bound
          split at bound
          · cases bound
          · rename_i sourceProc isFound
            split at bound
            · cases bound
            · rename_i differs
              split at bound
              · cases bound
              · rename_i sourceVariable read
                obtain ⟨source, isSource, named⟩ := Option.bind_eq_some_iff.mp read
                obtain ⟨given, isGiven⟩ :=
                  Option.isSome_iff_exists.mp (Proc.declaration?_isSome named)
                obtain ⟨wanted, isWanted⟩ :=
                  Option.isSome_iff_exists.mp (Proc.declaration?_isSome destination)
                simp only [isSource, Option.bind_some, isGiven, isWanted] at bound
                split at bound
                · rename_i connects
                  cases bound
                  exact ⟨destination, ⟨reference, parsed, isFound⟩, differs,
                    source, given, wanted, isSource, isGiven, isWanted, connects⟩
                · cases bound

theorem connects_of_bindInputs {created : List (Proc P × ProcSpec)} {procs : List (Proc P)}
    (bound : bindInputs created = .ok procs) {proc : Proc P} (member : proc ∈ procs)
    {connection : Connection} (isInput : connection ∈ proc.head.inputs) :
    proc.Connects procs connection := by
  obtain ⟨sameLength, each⟩ := bindInputs_spec bound
  obtain ⟨position, found⟩ := List.mem_iff_getElem?.mp member
  have below : position < created.length := sameLength ▸ (List.getElem?_eq_some_iff.mp found).1
  obtain ⟨inputs, resolved, there⟩ := each position created[position].1 created[position].2
    (List.getElem?_eq_getElem below)
  obtain rfl := Option.some.inj (found.symm.trans there)
  rw [Proc.inputs_withInputs] at isInput
  obtain ⟨input, -, accepted⟩ := exists_of_mem_mapM resolved isInput
  obtain ⟨source, given, wanted, isSource, isGiven, isWanted, connects⟩ :=
    (bound_of_bindInput accepted).connects
  rw [List.getElem?_map] at isSource
  obtain ⟨⟨sourceProc, spec⟩, wasCreated, rfl⟩ := Option.map_eq_some_iff.mp isSource
  obtain ⟨sourceInputs, -, sourceThere⟩ := each _ _ _ wasCreated
  refine ⟨_, given, wanted, sourceThere, ?_, ?_, connects⟩
  · rw [Proc.declaration?_withInputs, isGiven]
  · rw [Proc.declaration?_withInputs, isWanted]

/-! ## Forwarded variables -/

theorem forwards_spec {spec : ProcSpec} {procs : List (Proc P)} {declaration : Declaration}
    {found : List (Nat × Nat)} (forwarded : forwards spec procs declaration = .ok found) :
    ∃ target, declaration.target = some target ∧ ∀ address ∈ found, ∃ proc,
      procs[address.1]? = some proc ∧ proc.label = target.proc ∧
        proc.variableIndex? target.var = some address.2 := by
  unfold forwards at forwarded
  cases isTarget : declaration.target with
  | none =>
      rw [isTarget] at forwarded
      cases forwarded
  | some target =>
      simp only [isTarget] at forwarded
      split at forwarded
      · cases forwarded
      · cases forwarded
        refine ⟨target, rfl, fun address member => ?_⟩
        obtain ⟨⟨proc, position⟩, listed, isAddress⟩ := List.mem_filterMap.mp member
        have there := List.mem_zipIdx_iff_getElem?.mp listed
        dsimp only at isAddress there
        split at isAddress
        · rename_i sameLabel
          obtain ⟨var, named, rfl⟩ := Option.map_eq_some_iff.mp isAddress
          exact ⟨proc, there, sameLabel, named⟩
        · cases isAddress

theorem nodup_of_duplicate? {earlier : List String} {specs : List ProcSpec}
    (distinct : duplicate? earlier specs = none) :
    (specs.map (·.label)).Nodup ∧ ∀ spec ∈ specs, spec.label ∉ earlier := by
  induction specs generalizing earlier with
  | nil => exact ⟨List.nodup_nil, fun spec member => absurd member List.not_mem_nil⟩
  | cons spec rest inductionHypothesis =>
      rw [duplicate?] at distinct
      split at distinct
      · cases distinct
      · rename_i fresh
        have isFresh : spec.label ∉ earlier := by simpa using fresh
        obtain ⟨nodup, apart⟩ := inductionHypothesis distinct
        refine ⟨?_, List.forall_mem_cons.mpr ⟨isFresh, fun other member inEarlier =>
          apart other member (List.mem_cons_of_mem _ inEarlier)⟩⟩
        rw [List.map_cons, List.nodup_cons]
        refine ⟨fun repeated => ?_, nodup⟩
        obtain ⟨other, member, sameLabel⟩ := List.mem_map.mp repeated
        exact apart other member (sameLabel ▸ List.mem_cons_self)

variable [Processor P] {environment : Environment P} {inner : LevelBuilder P}
  {template : Template} {replica : Option Nat} {exposed : List VarRef}
  {store middle after : Store P} {created : List (Proc P × ProcSpec)} {level : Level P}

/-- Every proc of a level comes from a spec of its template, under the label of the spec
and of the class that the spec names. -/
theorem Assembled.exists_spec
    (assembled : Assembled environment inner template replica exposed store created middle level
      after) {proc : Proc P} (member : proc ∈ level.procs) :
    ∃ spec ∈ template.procs, proc.label = spec.label ∧
      environment.classes.get? spec.className = some proc.description := by
  obtain ⟨⟨made, spec⟩, wasCreated, inputs, rfl⟩ :=
    exists_created_of_bindInputs assembled.bound member
  obtain ⟨description, number, before, next, listed, known, creation⟩ :=
    assembled.made.of_mem wasCreated
  refine ⟨spec, listed, ?_⟩
  rw [Proc.label_withInputs, Proc.description_withInputs]
  obtain ⟨device, -, ⟨native, cell, -, -, rfl, -⟩ |
    ⟨below, level, last, targets, -, -, -, rfl, -⟩⟩ := createProc_cases creation
  · exact ⟨rfl, known⟩
  · exact ⟨rfl, known⟩

theorem Assembled.description_of_label
    (assembled : Assembled environment inner template replica exposed store created middle level
      after) {proc : Proc P} (member : proc ∈ level.procs) {spec : ProcSpec}
    (isSpec : template.proc? proc.label = some spec) :
    environment.classes.get? spec.className = some proc.description := by
  obtain ⟨other, listed, sameLabel, known⟩ := assembled.exists_spec member
  have found : spec ∈ template.procs := List.mem_of_find?_eq_some isSpec
  have labelled : spec.label = proc.label := by simpa using List.find?_some isSpec
  have nodup := (nodup_of_duplicate? assembled.distinct).1
  rw [List.inj_on_of_nodup_map nodup found listed (labelled.trans sameLabel)]
  exact known

theorem linked_of_assembled {registry : Registry P}
    (coherent : environment.classes.Coherent registry) {depth : Nat}
    (assembled : Assembled environment (buildNested environment depth) template replica exposed
      store created middle level after) : level.Linked environment.classes where
  known proc member := by
    obtain ⟨spec, -, -, known⟩ := assembled.exists_spec member
    exact ⟨_, known⟩
  connections proc member connection isInput :=
    connects_of_bindInputs assembled.bound member isInput
  forwards head procs order presets targets member var declaration declared target listed := by
    obtain ⟨spec, innerTemplate, before, next, known, kind, belowBuilt, forwarded⟩ :=
      assembled.subnet_of_mem member
    cases depth with
    | zero => cases belowBuilt
    | succ depth =>
        obtain ⟨innerCreated, innerMiddle, innerAssembled⟩ := assembled_of_buildLevel belowBuilt
        obtain ⟨addresses, atVar, resolved⟩ :=
          exists_getElem?_of_forall₂ (mapM_eq_ok.mp forwarded) declared
        rw [atVar, Option.getD_some] at listed
        obtain ⟨address, isAddress, each⟩ := forwards_spec resolved
        obtain ⟨proc, isProc, labelled, named⟩ := each target listed
        obtain ⟨reference, innerSpec, innerClass, variable_, isReference, isSpec, isClass,
          isVariable, sameType⟩ :=
          coherent.forwarded _ _ _ known kind declaration (List.mem_of_getElem? declared)
        obtain rfl := Option.some.inj (isAddress.symm.trans isReference)
        have ofClass := innerAssembled.description_of_label (List.mem_of_getElem? isProc)
          (labelled ▸ isSpec)
        obtain rfl := Option.some.inj (isClass.symm.trans ofClass)
        refine ⟨proc, variable_, isProc, ?_, sameType.symm⟩
        rw [ClassDescription.declaration?_eq_bind] at isVariable
        have there : proc.description.variableIndex? address.var = some target.2 := named
        rwa [there] at isVariable

/-- Every network inside a built one is linked. -/
theorem linked_of_build {classes : ClassSet P} {registry : Registry P}
    (coherent : classes.Coherent registry) {timing : Timing} {devices : List Device}
    {network : Network P} (built : Network.build classes template timing devices = .ok network)
    {inside : Level P} (within : network.level.Within inside) : inside.Linked classes :=
  forall_within_of_buildNested (motive := fun level => level.Linked classes)
    (fun _ _ _ _ _ _ _ _ _ assembled => linked_of_assembled coherent assembled)
    (buildNested_of_build built).1 within

/-- On every level of a built network, procs with one label are of one class. -/
theorem description_eq_of_label {classes : ClassSet P} {timing : Timing} {devices : List Device}
    {network : Network P} (built : Network.build classes template timing devices = .ok network)
    {inside : Level P} (within : network.level.Within inside) {proc : Proc P}
    (member : proc ∈ inside.procs) {other : Proc P} (alsoMember : other ∈ inside.procs)
    (sameLabel : other.label = proc.label) : other.description = proc.description := by
  refine forall_within_of_buildNested (motive := fun level => ∀ proc ∈ level.procs,
    ∀ other ∈ level.procs, other.label = proc.label → other.description = proc.description) ?_
    (buildNested_of_build built).1 within proc member other alsoMember sameLabel
  intro depth template replica exposed store created middle level after assembled proc member other
    alsoMember sameLabel
  obtain ⟨spec, listed, labelled, known⟩ := assembled.exists_spec member
  obtain ⟨otherSpec, otherListed, otherLabelled, otherKnown⟩ := assembled.exists_spec alsoMember
  have nodup := (nodup_of_duplicate? assembled.distinct).1
  obtain rfl : otherSpec = spec := List.inj_on_of_nodup_map nodup otherListed listed
    (otherLabelled.symm.trans (sameLabel.trans labelled))
  exact Option.some.inj (otherKnown.symm.trans known)

end Build

end SignalNet
