import SignalNet.Proofs.Network.Addresses
import SignalNet.Proofs.Network.Forwarding

/-!
Contract: the native variables behind one variable are counterparts of each other.

A variable of a subnet forwards to all voices of an inner proc, and these may forward to
voices in turn. All voices of a proc come from one spec, and so does everything inside them.
Following the targets from the variable, description by description, ends at one spec of a
native proc and one of its variables. The native variables behind it are what was created
from that spec, so they are the same variable of one class, in banks of one shape.

Owns: `Proc.Reaches`, the way from a description to the native one behind it
(`Build.EndsAt`), and that built networks follow it (`Build.uniform_of_build`).
-/

set_option autoImplicit false

namespace SignalNet

variable {P : Type}

/-! ## Native variables behind a variable -/

/-- A variable of a proc forwards to a native variable, through any number of subnets: the
head of the native proc, and the terminal of the variable. -/
inductive Proc.Reaches : Proc P → Nat → ProcHead P → Terminal → Prop where
  | native (head : ProcHead P) (slot var : Nat) : Reaches (.native head slot) var head ⟨slot, var⟩
  | forward {head : ProcHead P} {procs : List (Proc P)} {order : List Nat}
      {presets : List NetworkPreset} {targets : List (List (Nat × Nat))} {var : Nat}
      {addresses : List (Nat × Nat)} {position index : Nat} {inner : Proc P}
      {nativeHead : ProcHead P} {terminal : Terminal} (listed : targets[var]? = some addresses)
      (member : (position, index) ∈ addresses) (found : procs[position]? = some inner)
      (onward : Reaches inner index nativeHead terminal) :
      Reaches (.subnet head procs order presets targets) var nativeHead terminal

/-- The terminals of a variable are those of the native variables that it forwards to. -/
theorem Proc.mem_terminals_iff {proc : Proc P} {var : Nat} {terminal : Terminal} :
    terminal ∈ proc.terminals var ↔ ∃ head, proc.Reaches var head terminal := by
  constructor
  · intro member
    induction proc generalizing var with
    | native head slot =>
        rw [Proc.terminals, List.mem_singleton] at member
        exact ⟨head, member ▸ .native head slot var⟩
    | subnet head procs order presets targets inductionHypothesis =>
        rw [Proc.terminals, List.mem_flatMap] at member
        obtain ⟨address, isAddress, inside⟩ := member
        obtain ⟨inner, found, isTerminal⟩ := mem_terminalsAt.mp inside
        obtain ⟨nativeHead, onward⟩ :=
          inductionHypothesis inner (List.mem_of_getElem? found) isTerminal
        cases listed : targets[var]? with
        | none =>
            rw [listed] at isAddress
            cases isAddress
        | some addresses =>
            rw [listed] at isAddress
            exact ⟨nativeHead, .forward listed isAddress found onward⟩
  · rintro ⟨head, reaches⟩
    induction reaches with
    | native head slot var =>
        rw [Proc.terminals]
        exact List.mem_singleton_self _
    | forward listed member found _ inductionHypothesis =>
        rw [Proc.terminals, listed, Option.getD_some, List.mem_flatMap]
        exact ⟨_, member, mem_terminalsAt.mpr ⟨_, found, inductionHypothesis⟩⟩

/-- A native variable behind a variable of a proc in a network belongs to a native proc of
that network. -/
theorem Proc.Reaches.mem_natives {proc : Proc P} {var : Nat} {head : ProcHead P}
    {terminal : Terminal} (reaches : proc.Reaches var head terminal) {level inside : Level P}
    (within : level.Within inside) (member : proc ∈ inside.procs) :
    (head.description, terminal.slot) ∈ level.natives := by
  induction reaches generalizing inside with
  | native head slot var => exact within.mem_natives member
  | forward _ _ found _ inductionHypothesis =>
      exact inductionHypothesis (within.trans (.inner member rfl (.self _)))
        (List.mem_of_getElem? found)

theorem Proc.reaches_withInputs {proc : Proc P} {inputs : List Connection} {var : Nat}
    {head : ProcHead P} {terminal : Terminal}
    (reaches : (proc.withInputs inputs).Reaches var head terminal) :
    ∃ created, proc.Reaches var created terminal ∧ created.description = head.description := by
  cases proc with
  | native created slot =>
      cases reaches
      exact ⟨created, .native created slot var, rfl⟩
  | subnet created procs order presets targets =>
      cases reaches with
      | forward listed member found onward =>
          exact ⟨head, .forward listed member found onward, rfl⟩

namespace Build

/-! ## Following descriptions -/

/-- Following the targets from a variable of a class, as a spec asks for it, ends at a variable
of a plain class. The native proc there is created with a bank of some shape. -/
inductive EndsAt (environment : Environment P) :
    ProcSpec → ClassDescription P → Nat → ClassDescription P → Nat → List VariableShape → Prop
    where
  | native {spec : ProcSpec} {description : ClassDescription P} {native : NativeClass P}
      {device : Option Nat} {cell : Cell P} {var : Nat} (isPlain : description.kind = .plain native)
      (bound : findDevice environment spec = .ok device)
      (made : createCell environment spec description native device = .ok cell) :
      EndsAt environment spec description var description var cell.bank.shape
  | forward {spec innerSpec : ProcSpec} {description inner last : ClassDescription P}
      {template : Template} {var index place : Nat} {declaration : Declaration} {target : VarRef}
      {shape : List VariableShape} (isSubnet : description.kind = .subnet template)
      (listed : description.vars[var]? = some declaration)
      (isTarget : declaration.target = some target)
      (isSpec : template.proc? target.proc = some innerSpec)
      (isInner : environment.classes.get? innerSpec.className = some inner)
      (indexed : inner.variableIndex? target.var = some index)
      (onward : EndsAt environment innerSpec inner index last place shape) :
      EndsAt environment spec description var last place shape

variable {environment : Environment P}

/-- There is only one end. -/
theorem EndsAt.unique {spec : ProcSpec} {description last other : ClassDescription P}
    {var place otherPlace : Nat} {shape otherShape : List VariableShape}
    (here : EndsAt environment spec description var last place shape)
    (there : EndsAt environment spec description var other otherPlace otherShape) :
    other = last ∧ otherPlace = place ∧ otherShape = shape := by
  induction here with
  | native isPlain bound made =>
      cases there with
      | native isPlain' bound' made' =>
          cases isPlain.symm.trans isPlain'
          cases bound.symm.trans bound'
          cases made.symm.trans made'
          exact ⟨rfl, rfl, rfl⟩
      | forward isSubnet => cases isPlain.symm.trans isSubnet
  | forward isSubnet listed isTarget isSpec isInner indexed _ inductionHypothesis =>
      cases there with
      | native isPlain => cases isPlain.symm.trans isSubnet
      | forward isSubnet' listed' isTarget' isSpec' isInner' indexed' onward' =>
          cases isSubnet.symm.trans isSubnet'
          cases listed.symm.trans listed'
          cases isTarget.symm.trans isTarget'
          cases isSpec.symm.trans isSpec'
          cases isInner.symm.trans isInner'
          cases indexed.symm.trans indexed'
          exact inductionHypothesis onward'

end Build

/-- Each native variable behind a proc is where the descriptions lead from the spec of the
proc, in a bank of the shape that was created there. -/
def Proc.Follows (environment : Build.Environment P) (shapes : List (List VariableShape))
    (spec : ProcSpec) (proc : Proc P) : Prop :=
  ∀ var head terminal, proc.Reaches var head terminal →
    ∃ shape, shapes[terminal.slot]? = some shape ∧
      Build.EndsAt environment spec proc.description var head.description terminal.var shape

/-- The procs of a level follow the specs of a template that have their labels. -/
def Level.Follows (environment : Build.Environment P) (shapes : List (List VariableShape))
    (template : Template) (level : Level P) : Prop :=
  ∀ proc ∈ level.procs, ∃ spec, template.proc? proc.label = some spec ∧
    environment.classes.get? spec.className = some proc.description ∧
      proc.Follows environment shapes spec

namespace Proc.Follows

variable {environment : Build.Environment P} {shapes larger : List (List VariableShape)}
  {spec : ProcSpec} {proc : Proc P}

theorem mono (follows : proc.Follows environment shapes spec) (isPrefix : shapes <+: larger) :
    proc.Follows environment larger spec := by
  intro var head terminal reaches
  obtain ⟨shape, there, ends⟩ := follows var head terminal reaches
  obtain ⟨further, rfl⟩ := isPrefix
  refine ⟨shape, ?_, ends⟩
  rw [List.getElem?_append_left (List.getElem?_eq_some_iff.mp there).1, there]

theorem withInputs (follows : proc.Follows environment shapes spec) (inputs : List Connection) :
    (proc.withInputs inputs).Follows environment shapes spec := by
  intro var head terminal reaches
  obtain ⟨created, ofProc, same⟩ := Proc.reaches_withInputs reaches
  rw [Proc.description_withInputs, ← same]
  exact follows var created terminal ofProc

end Proc.Follows

namespace Build

/-! ## Building follows descriptions -/

/-- A level builder leaves the shapes of the cells that are there, and the levels that it
builds follow their templates. -/
def FollowsTemplates (environment : Environment P) (inner : LevelBuilder P) : Prop :=
  ∀ template replica exposed store level after,
    inner template replica exposed store = .ok (level, after) →
      store.shape <+: after.shape ∧ level.Follows environment after.shape template

variable [Processor P] {environment : Environment P} {inner : LevelBuilder P}
  {store after : Store P}

theorem follows_createProc (follows : FollowsTemplates environment inner) {spec : ProcSpec}
    {description : ClassDescription P} {replica : Option Nat} {proc : Proc P}
    (made : createProc environment inner spec description replica store = .ok (proc, after)) :
    store.shape <+: after.shape ∧ proc.Follows environment after.shape spec := by
  obtain ⟨device, bound, ⟨native, cell, isPlain, cellMade, rfl, rfl⟩ |
    ⟨template, level, middle, targets, isSubnet, levelBuilt, forwarded, rfl, literals⟩⟩ :=
    createProc_cases made
  · have grown : Store.shape (store ++ [cell]) = store.shape ++ [cell.bank.shape] := by
      rw [Store.shape, List.map_append]
      rfl
    rw [grown]
    refine ⟨List.prefix_append _ _, fun var head terminal reaches => ?_⟩
    cases reaches
    refine ⟨cell.bank.shape, ?_, .native isPlain bound cellMade⟩
    rw [Store.shape, ← List.length_map (f := fun cell : Cell P => cell.bank.shape),
      List.getElem?_concat_length]
  · -- the literals of the subnet are assigned after it is built, and keep all shapes
    obtain ⟨isPrefix, levelFollows⟩ := follows _ _ _ _ _ _ levelBuilt
    rw [(written_writeSubnet literals).shape_eq]
    refine ⟨isPrefix, fun var head terminal reaches => ?_⟩
    cases reaches with
    | @forward _ _ _ _ _ _ addresses position index inner _ _ listed member found onward =>
        have collected := (mapM_eq_ok.mp forwarded).flip
        obtain ⟨declaration, declared, resolved⟩ := exists_getElem?_of_forall₂ collected listed
        obtain ⟨target, isTarget, each⟩ := forwards_spec resolved
        obtain ⟨other, isOther, labelled, indexed⟩ := each _ member
        obtain rfl := Option.some.inj (found.symm.trans isOther)
        obtain ⟨innerSpec, isSpec, isInner, innerFollows⟩ :=
          levelFollows inner (List.mem_of_getElem? found)
        obtain ⟨shape, there, ends⟩ := innerFollows index head terminal onward
        exact ⟨shape, there, .forward isSubnet declared isTarget (labelled ▸ isSpec) isInner indexed
          ends⟩

theorem follows_created (follows : FollowsTemplates environment inner) {specs : List ProcSpec}
    {around : Option Nat} {created : List (Proc P × ProcSpec)}
    (made : Created environment inner specs around store created after) :
    store.shape <+: after.shape ∧
      ∀ item ∈ created, item.1.Follows environment after.shape item.2 := by
  induction made with
  | nil store => exact ⟨List.prefix_refl _, List.forall_mem_nil _⟩
  | cons _ _ _ _ made _ inductionHypothesis =>
      obtain ⟨first, procFollows⟩ := follows_createProc follows made
      obtain ⟨later, others⟩ := inductionHypothesis
      exact ⟨first.trans later, List.forall_mem_cons.mpr ⟨procFollows.mono later, others⟩⟩

theorem proc?_of_mem {template : Template} (nodup : (template.procs.map (·.label)).Nodup)
    {spec : ProcSpec} (listed : spec ∈ template.procs) : template.proc? spec.label = some spec := by
  cases found : template.proc? spec.label with
  | none =>
      have absent := List.find?_eq_none.mp found spec listed
      simp at absent
  | some other =>
      have labelled : other.label = spec.label := by simpa using List.find?_some found
      rw [List.inj_on_of_nodup_map nodup (List.mem_of_find?_eq_some found) listed labelled]

/-- Building follows the descriptions on every level. -/
theorem followsTemplates_buildNested (environment : Environment P) (depth : Nat) :
    FollowsTemplates environment (buildNested environment depth) := by
  induction depth with
  | zero =>
      intro template replica exposed store level after built
      cases built
  | succ depth inductionHypothesis =>
      intro template replica exposed store level after built
      obtain ⟨created, middle, assembled⟩ := assembled_of_buildLevel built
      obtain ⟨isPrefix, each⟩ := follows_created inductionHypothesis assembled.made
      rw [(written_applyConstructionPresets assembled.preset).shape_eq]
      refine ⟨isPrefix, fun proc member => ?_⟩
      obtain ⟨⟨made, spec⟩, wasCreated, inputs, rfl⟩ :=
        exists_created_of_bindInputs assembled.bound member
      obtain ⟨description, number, before, next, listed, known, creation⟩ :=
        assembled.made.of_mem wasCreated
      have origin := origin_of_createProc creation
      have labelled : made.label = spec.label := congrArg (·.1) origin
      have ofClass : made.description = description := congrArg (·.2.2) origin
      rw [Proc.label_withInputs, Proc.description_withInputs, labelled, ofClass]
      exact ⟨spec, proc?_of_mem (nodup_of_duplicate? assembled.distinct).1 listed, known,
        (each _ wasCreated).withInputs inputs⟩

end Build

/-! ## Counterparts -/

/-- The native variables behind each variable of a proc are the same variable of one class, in
banks of one shape. -/
def Proc.Uniform (shapes : List (List VariableShape)) (proc : Proc P) : Prop :=
  ∀ var head terminal other counterpart, proc.Reaches var head terminal →
    proc.Reaches var other counterpart →
      other.description = head.description ∧ counterpart.var = terminal.var ∧
        shapes[counterpart.slot]? = shapes[terminal.slot]?

/-- Counterparts have the same channels. -/
theorem Proc.Uniform.isSome_place? {store : Store P} {proc : Proc P}
    (uniform : proc.Uniform store.shape) {var : Nat} {head other : ProcHead P}
    {terminal counterpart : Terminal} (reaches : proc.Reaches var head terminal)
    (alsoReaches : proc.Reaches var other counterpart) (ch : Nat) :
    (store.place? counterpart ch).isSome = (store.place? terminal ch).isSome := by
  obtain ⟨-, sameVar, sameShape⟩ := uniform _ _ _ _ _ reaches alsoReaches
  rw [Store.isSome_place?, Store.isSome_place?, Store.shapeAt, Store.shapeAt, sameVar, sameShape]

theorem Proc.Follows.uniform {environment : Build.Environment P}
    {shapes : List (List VariableShape)} {spec : ProcSpec} {proc : Proc P}
    (follows : proc.Follows environment shapes spec) : proc.Uniform shapes := by
  intro var head terminal other counterpart reaches alsoReaches
  obtain ⟨shape, there, ends⟩ := follows var head terminal reaches
  obtain ⟨otherShape, otherThere, alsoEnds⟩ := follows var other counterpart alsoReaches
  obtain ⟨sameClass, sameVar, sameShape⟩ := ends.unique alsoEnds
  refine ⟨sameClass, sameVar, ?_⟩
  rw [there, otherThere, sameShape]

namespace Build

section

variable [Processor P] {environment : Environment P} {store after : Store P}

/-- What was created on the way is still there in the end, up to values. -/
theorem shape_created_of_mem {inner : LevelBuilder P} (follows : FollowsTemplates environment inner)
    {specs : List ProcSpec} {around : Option Nat} {created : List (Proc P × ProcSpec)}
    (made : Created environment inner specs around store created after)
    {item : Proc P × ProcSpec} (member : item ∈ created) :
    ∃ description number before next, createProc environment inner item.2 description number
        before = .ok (item.1, next) ∧ next.shape <+: after.shape := by
  induction made with
  | nil store => exact absurd member List.not_mem_nil
  | cons _ _ _ _ made others inductionHypothesis =>
      rcases List.mem_cons.mp member with rfl | later
      · exact ⟨_, _, _, _, made, (follows_created follows others).1⟩
      · exact inductionHypothesis later

theorem uniform_of_buildNested {depth : Nat} {template : Template} {replica : Option Nat}
    {exposed : List VarRef} {level inside : Level P} {shapes : List (List VariableShape)}
    (built : buildNested environment depth template replica exposed store = .ok (level, after))
    (within : level.Within inside) (extended : after.shape <+: shapes) {proc : Proc P}
    (member : proc ∈ inside.procs) : proc.Uniform shapes := by
  induction depth generalizing template replica exposed store after level with
  | zero => cases built
  | succ depth inductionHypothesis =>
      cases within with
      | self =>
          obtain ⟨-, follows⟩ := followsTemplates_buildNested environment _ _ _ _ _ _ _ built
          obtain ⟨spec, -, -, procFollows⟩ := follows proc member
          exact (procFollows.mono extended).uniform
      | @inner _ around _ _ isProc isSubnet deeper =>
          obtain ⟨created, middle, assembled⟩ := assembled_of_buildLevel built
          obtain ⟨item, wasCreated, inputs, rfl⟩ :=
            exists_created_of_bindInputs assembled.bound isProc
          obtain ⟨description, number, before, next, made, grown⟩ := shape_created_of_mem
            (followsTemplates_buildNested environment depth) assembled.made wasCreated
          rw [(written_applyConstructionPresets assembled.preset).shape_eq] at extended
          -- the level inside was built first, and its cells kept their shapes
          rw [Proc.inner?_withInputs] at isSubnet
          obtain ⟨below, last, targets, device, -, innerBuilt, -, -, literals⟩ :=
            level_of_createProc made isSubnet
          rw [(written_writeSubnet literals).shape_eq] at grown
          exact inductionHypothesis innerBuilt deeper (grown.trans extended)

end

variable [Processor P] {classes : ClassSet P} {template : Template} {timing : Timing}
  {devices : List Device} {network : Network P} {proc : Proc P}

/-- In a built network, the native variables behind each variable are counterparts, at every
depth. -/
theorem uniform_within_of_build
    (built : Network.build classes template timing devices = .ok network) {inside : Level P}
    (within : network.level.Within inside) (member : proc ∈ inside.procs) :
    proc.Uniform network.store.shape :=
  uniform_of_buildNested (buildNested_of_build built).1 within (List.prefix_refl _) member

theorem uniform_of_build
    (built : Network.build classes template timing devices = .ok network)
    (member : proc ∈ network.level.procs) : proc.Uniform network.store.shape :=
  uniform_within_of_build built (.self _) member

end Build

end SignalNet
