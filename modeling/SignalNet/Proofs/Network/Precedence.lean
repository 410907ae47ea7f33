import SignalNet.Proofs.Network.Access
import SignalNet.Proofs.Network.Replicas
import SignalNet.Proofs.Network.Settings

/-!
Contract: the outermost setting of a native variable wins.

A native variable is set by its own proc and by every subnet around it that has a variable for
it, each with an argument or else with the default that its class itself declares. Building goes
from the inside outwards, and every level puts what it says in front of what is set inside. The
crux is that a subnet says at most one thing about each place: where no two of its variables
stand for the same one, at most one of them leads there, at every depth.

Owns: the settings of a native variable on the way outwards (`Proc.settings`), procs that lead to
each place by one variable (`Proc.Separated`), what a constructor is called with
(`Build.Constructed`), and the law of precedence (`outermost_setting_wins`).
-/

set_option autoImplicit false

namespace SignalNet

variable {P : Type}

/-! ## The settings of a native variable -/

/-- What a proc sets a native variable to, through the variable of its own that leads there. -/
def Proc.ownSetting? (catalogue : Catalogue P) (terminal : Terminal) (spec : ProcSpec)
    (proc : Proc P) : Option Literal :=
  ((List.range proc.description.vars.length).find? fun var => terminal ∈ proc.terminals var).bind
    (catalogue.setting? spec proc.description)

mutual

/-- What a proc and the procs in it set a native variable to, the outermost one first. -/
def Proc.settings (catalogue : Catalogue P) (terminal : Terminal) (spec : ProcSpec) :
    Proc P → List Literal
  | .native head slot => ((Proc.native head slot).ownSetting? catalogue terminal spec).toList
  | .subnet head procs order presets targets =>
      ((Proc.subnet head procs order presets targets).ownSetting? catalogue terminal spec).toList ++
        match head.description.kind with
        | .subnet template => settingsOf catalogue terminal template procs
        | .plain _ => []

/-- The same for the procs of a level, each with the spec that its template has for it. -/
def settingsOf (catalogue : Catalogue P) (terminal : Terminal) (template : Template) :
    List (Proc P) → List Literal
  | [] => []
  | proc :: rest =>
      (match template.proc? proc.label with
        | some spec => proc.settings catalogue terminal spec
        | none => []) ++ settingsOf catalogue terminal template rest

end

section

variable {catalogue : Catalogue P} {terminal : Terminal} {spec : ProcSpec} {proc : Proc P}
  {template : Template}

theorem Proc.settings_of_inner? {below : Level P} (isSubnet : proc.inner? = some below)
    (kind : proc.description.kind = .subnet template) :
    proc.settings catalogue terminal spec =
      (proc.ownSetting? catalogue terminal spec).toList ++
        settingsOf catalogue terminal template below.procs := by
  cases proc with
  | native head slot => cases isSubnet
  | subnet head procs order presets targets =>
      cases isSubnet
      have kind : head.description.kind = .subnet template := kind
      rw [settings, kind]

theorem Proc.settings_withInputs (proc : Proc P) (inputs : List Connection) :
    (proc.withInputs inputs).settings catalogue terminal spec =
      proc.settings catalogue terminal spec := by
  have sameOwn : (proc.withInputs inputs).ownSetting? catalogue terminal spec =
      proc.ownSetting? catalogue terminal spec := by
    simp only [ownSetting?, description_withInputs, terminals_withInputs]
  cases proc with
  | native head slot =>
      rw [withInputs, settings, settings]
      exact congrArg Option.toList sameOwn
  | subnet head procs order presets targets =>
      rw [withInputs, settings, settings]
      exact congrArg (Option.toList · ++ _) sameOwn

theorem settingsOf_eq_flatMap (procs : List (Proc P)) :
    settingsOf catalogue terminal template procs = procs.flatMap fun proc =>
      (template.proc? proc.label).toList.flatMap fun spec =>
        proc.settings catalogue terminal spec := by
  induction procs with
  | nil => rfl
  | cons proc rest inductionHypothesis =>
      rw [settingsOf, List.flatMap_cons, inductionHypothesis]
      cases template.proc? proc.label with
      | none => rfl
      | some spec => rw [Option.toList_some, List.flatMap_singleton]

theorem Proc.ownSetting?_eq_none (outside : ∀ var, terminal ∉ proc.terminals var) :
    proc.ownSetting? catalogue terminal spec = none := by
  have absent : ((List.range proc.description.vars.length).find? fun var =>
      terminal ∈ proc.terminals var) = none := by
    rw [List.find?_eq_none]
    intro var _ leads
    exact outside var (of_decide_eq_true leads)
  rw [ownSetting?, absent, Option.bind_none]

/-- A proc sets nothing that is not in it. -/
theorem Proc.settings_eq_nil (outside : terminal.slot ∉ proc.slots) :
    proc.settings catalogue terminal spec = [] := by
  induction proc generalizing spec with
  | native head slot =>
      rw [settings, ownSetting?_eq_none fun var leads => outside (slot_mem_of_terminal leads)]
      rfl
  | subnet head procs order presets targets inductionHypothesis =>
      rw [settings, ownSetting?_eq_none fun var leads => outside (slot_mem_of_terminal leads)]
      cases head.description.kind with
      | plain native => rfl
      | subnet template =>
          change settingsOf catalogue terminal template procs = []
          rw [settingsOf_eq_flatMap]
          refine List.flatMap_eq_nil_iff.mpr fun inner member =>
            List.flatMap_eq_nil_iff.mpr fun innerSpec _ => inductionHypothesis inner member ?_
          exact fun inInner => outside (mem_slotsOf.mpr ⟨inner, member, inInner⟩)

/-- On a level, a native variable is set by the one proc that it is in. -/
theorem settingsOf_of_mem {procs : List (Proc P)} (nodup : (slotsOf procs).Nodup)
    (member : proc ∈ procs) (isSpec : template.proc? proc.label = some spec)
    (inside : terminal.slot ∈ proc.slots) :
    settingsOf catalogue terminal template procs = proc.settings catalogue terminal spec := by
  rw [settingsOf_eq_flatMap, flatMap_procs_of_mem nodup member inside, isSpec, Option.toList_some,
    List.flatMap_singleton]
  intro other _ outside
  exact List.flatMap_eq_nil_iff.mpr fun otherSpec _ => Proc.settings_eq_nil outside

end

/-! ## One variable for each place -/

/-- At most one variable of a proc leads to a native variable. -/
def Proc.Separated (proc : Proc P) : Prop :=
  ∀ terminal var other, terminal ∈ proc.terminals var → terminal ∈ proc.terminals other →
    other = var

theorem ClassDescription.label_of_variableIndex? {description : ClassDescription P}
    {label : String} {var : Nat} (indexed : description.variableIndex? label = some var) :
    (description.vars[var]?).map (·.label) = some label := by
  obtain ⟨below, same, -⟩ := List.findIdx?_eq_some_iff_getElem.mp indexed
  rw [List.getElem?_eq_getElem below, Option.map_some, beq_iff_eq.mp same]

/-- Two targets that lead to one place in a proc are the same. -/
theorem VarRef.eq_of_terminalsIn {target other : VarRef} {proc : Proc P} {terminal : Terminal}
    (separated : proc.Separated) (leads : terminal ∈ target.terminalsIn proc)
    (alsoLeads : terminal ∈ other.terminalsIn proc) : other = target := by
  rw [terminalsIn] at leads alsoLeads
  split at leads
  · rename_i isProc
    split at alsoLeads
    · rename_i alsoIsProc
      obtain ⟨var, indexed, isTerminal⟩ := List.mem_flatMap.mp leads
      obtain ⟨otherVar, otherIndexed, alsoTerminal⟩ := List.mem_flatMap.mp alsoLeads
      rw [Option.mem_toList] at indexed otherIndexed
      obtain rfl := separated terminal var otherVar isTerminal alsoTerminal
      have labelled := ClassDescription.label_of_variableIndex? indexed
      have otherLabelled := ClassDescription.label_of_variableIndex? otherIndexed
      have sameVar := Option.some.inj (otherLabelled.symm.trans labelled)
      cases target
      cases other
      cases isProc
      cases alsoIsProc
      cases sameVar
      rfl
    · cases alsoLeads
  · cases leads

/-- A subnet whose variables stand for different ones leads to each place by one of them, if the
procs in it do. -/
theorem Proc.separated_subnet {head : ProcHead P} {procs : List (Proc P)} {order : List Nat}
    {presets : List NetworkPreset} {targets : List (List (Nat × Nat))}
    (resolved : (Proc.subnet head procs order presets targets).Resolved)
    (distinct : (head.description.vars.map (·.target)).Nodup) (nodup : (slotsOf procs).Nodup)
    (each : ∀ inner ∈ procs, inner.Separated) :
    (Proc.subnet head procs order presets targets).Separated := by
  have leadsVia {terminal : Terminal} {var : Nat}
      (leads : terminal ∈ (Proc.subnet head procs order presets targets).terminals var) :
      ∃ inner ∈ procs, ∃ target,
        (head.description.vars.map (·.target))[var]? = some (some target) ∧
          terminal ∈ target.terminalsIn inner := by
    rw [terminals_subnet resolved] at leads
    obtain ⟨inner, member, leads⟩ := List.mem_flatMap.mp leads
    obtain ⟨target, isTarget, inside⟩ := List.mem_flatMap.mp leads
    rw [Option.mem_toList] at isTarget
    obtain ⟨declaration, declared, isTarget⟩ := Option.bind_eq_some_iff.mp isTarget
    refine ⟨inner, member, target, ?_, inside⟩
    rw [List.getElem?_map, declared, Option.map_some, isTarget]
  intro terminal var other leads alsoLeads
  obtain ⟨inner, member, target, isTarget, inside⟩ := leadsVia leads
  obtain ⟨otherInner, alsoMember, otherTarget, isOther, alsoInside⟩ := leadsVia alsoLeads
  obtain rfl : otherInner = inner := by
    obtain ⟨position, there⟩ := List.mem_iff_getElem?.mp member
    obtain ⟨otherPosition, alsoThere⟩ := List.mem_iff_getElem?.mp alsoMember
    by_cases same : otherPosition = position
    · rw [same] at alsoThere
      exact Option.some.inj (alsoThere.symm.trans there)
    · have apart := slot_disjoint nodup same alsoThere there
        (VarRef.slot_mem_of_terminalsIn alsoInside)
      exact absurd (VarRef.slot_mem_of_terminalsIn inside) apart
  obtain rfl := VarRef.eq_of_terminalsIn (each _ member) inside alsoInside
  obtain ⟨below, -⟩ := List.getElem?_eq_some_iff.mp isTarget
  exact ((List.getElem?_inj below distinct).mp (isTarget.trans isOther.symm)).symm

theorem Proc.separated_native (head : ProcHead P) (slot : Nat) :
    (Proc.native head slot).Separated := by
  intro terminal var other leads alsoLeads
  rw [terminals, List.mem_singleton] at leads alsoLeads
  rw [leads] at alsoLeads
  cases alsoLeads
  rfl

/-- On a level, every proc leads to each place by one variable, if all subnets in it stand for
different variables. -/
theorem Level.separated {level : Level P} (nodup : level.slots.Nodup)
    (each : ∀ inside, level.Within inside → ∀ proc ∈ inside.procs, proc.Resolved ∧
      ∀ below, proc.inner? = some below → (proc.description.vars.map (·.target)).Nodup) :
    ∀ proc ∈ level.procs, proc.Separated := by
  intro proc member
  induction proc generalizing level with
  | native head slot => exact Proc.separated_native head slot
  | subnet head procs order presets targets inductionHypothesis =>
      have toBelow : level.Within ⟨procs, order, presets⟩ := .inner member rfl (.self _)
      have belowNodup := toBelow.slots_sublist.nodup nodup
      obtain ⟨resolved, distinct⟩ := each level (.self level) _ member
      refine Proc.separated_subnet resolved (distinct _ rfl) belowNodup fun inner isInner => ?_
      exact inductionHypothesis inner isInner belowNodup
        (fun inside within => each inside (toBelow.trans within)) isInner

/-- Where one variable of a proc leads to a place, the proc sets the place through it. -/
theorem Proc.ownSetting?_of_mem {catalogue : Catalogue P} {spec : ProcSpec} {proc : Proc P}
    (separated : proc.Separated) {terminal : Terminal} {var : Nat}
    (leads : terminal ∈ proc.terminals var) (below : var < proc.description.vars.length) :
    proc.ownSetting? catalogue terminal spec = catalogue.setting? spec proc.description var := by
  rw [ownSetting?]
  cases found : (List.range proc.description.vars.length).find? fun var =>
      terminal ∈ proc.terminals var with
  | none =>
      have absent := List.find?_eq_none.mp found var (List.mem_range.mpr below)
      exact absurd (decide_eq_true leads) absent
  | some other =>
      have alsoLeads : terminal ∈ proc.terminals other := by simpa using List.find?_some found
      rw [Option.bind_some, separated terminal var other leads alsoLeads]

/-- In a subnet, a slot belongs to one native proc. -/
theorem Proc.Reaches.head_eq {proc : Proc P} {head other : ProcHead P} {slot var outer : Nat}
    (reaches : proc.Reaches outer other ⟨slot, var⟩) {below : Level P}
    (isSubnet : proc.inner? = some below) (nodup : below.slots.Nodup)
    (isLeaf : (head, slot) ∈ below.leaves) : other = head := by
  cases proc with
  | native => cases isSubnet
  | subnet around procs order presets targets =>
      cases isSubnet
      cases reaches with
      | forward _ _ found onward =>
          have alsoLeaf := onward.mem_leaves (.self ⟨procs, order, presets⟩)
            (List.mem_of_getElem? found)
          rw [Level.slots_eq_map_leaves] at nodup
          exact congrArg Prod.fst (List.inj_on_of_nodup_map nodup alsoLeaf isLeaf rfl)

/-! ## Class sets and templates -/

/-- No two variables of a subnet stand for the same inner variable. -/
def ClassSet.Untangled (classes : ClassSet P) : Prop :=
  ∀ description ∈ classes.classes, description.isSubnet = true →
    (description.vars.map (·.target)).Nodup

instance (classes : ClassSet P) : Decidable classes.Untangled :=
  List.decidableBAll _ _

theorem ClassSet.Untangled.nodup_targets {classes : ClassSet P} (untangled : classes.Untangled)
    {label : String} {description : ClassDescription P} {template : Template}
    (known : classes.get? label = some description)
    (isSubnet : description.kind = .subnet template) :
    (description.vars.map (·.target)).Nodup := by
  refine untangled description (List.mem_of_find?_eq_some known) ?_
  rw [ClassDescription.isSubnet, ClassDescription.template?, isSubnet]
  rfl

/-- All initial literals are scalars. -/
def ClassSet.ScalarDefaults (classes : ClassSet P) : Prop :=
  ∀ description ∈ classes.classes, ∀ declaration ∈ description.vars,
    ∀ literal ∈ declaration.initial, literal.Scalar

instance (classes : ClassSet P) : Decidable classes.ScalarDefaults :=
  List.decidableBAll _ _

/-- All arguments are scalars, and no proc asks for a preset. -/
def Template.Simple (template : Template) : Prop :=
  ∀ spec ∈ template.procs, spec.preset = none ∧ ∀ entry ∈ spec.arguments.entries, entry.2.Scalar

instance (template : Template) : Decidable template.Simple :=
  List.decidableBAll _ _

/-- A template is inside another one: it is that template, or inside the one of a class that is
used there. -/
inductive Template.Within (classes : ClassSet P) : Template → Template → Prop where
  | self (template : Template) : Within classes template template
  | inner {template own last : Template} {spec : ProcSpec} {description : ClassDescription P}
      (listed : spec ∈ template.procs) (known : classes.get? spec.className = some description)
      (isSubnet : description.kind = .subnet own) (deeper : Within classes own last) :
      Within classes template last

theorem Template.Within.simple {classes : ClassSet P} {template own : Template}
    (within : Within classes template own) (here : template.Simple)
    (each : ∀ description ∈ classes.classes, ∀ inner ∈ description.template?, inner.Simple) :
    own.Simple := by
  induction within with
  | self template => exact here
  | inner _ known isSubnet _ inductionHypothesis =>
      refine inductionHypothesis (each _ (List.mem_of_find?_eq_some known) _ ?_)
      rw [ClassDescription.template?, isSubnet]
      rfl

/-- What the law of precedence asks of a class set, and that the catalogue has the defaults that
its classes declare themselves. -/
structure ClassSet.Regular (classes : ClassSet P) (catalogue : Catalogue P) : Prop where
  coherent : classes.Coherent catalogue.registry
  untangled : classes.Untangled
  scalar : classes.ScalarDefaults
  plain : ∀ label description native, classes.get? label = some description →
    description.kind = .plain native → ∀ var,
      catalogue.default? description.label var = (description.vars[var]?).bind (·.initial)
  subnet : ∀ label description template, classes.get? label = some description →
    description.kind = .subnet template → ∀ var,
      catalogue.default? description.label var = (description.vars[var]?).bind (·.own?)

theorem Catalogue.WellFormed.regular {catalogue : Catalogue P} (wellFormed : catalogue.WellFormed)
    (declared : catalogue.Each fun kind description =>
      ∀ declaration ∈ description.vars, declaration.AsRead kind) {classes : ClassSet P}
    (finished : catalogue.finish = .ok classes) (untangled : classes.Untangled)
    (scalar : classes.ScalarDefaults) : classes.Regular catalogue where
  coherent := wellFormed.coherent finished
  untangled := untangled
  scalar := scalar
  plain _ _ _ found isPlain var := wellFormed.default?_plain finished found isPlain var
  subnet _ _ _ found isSubnet var :=
    wellFormed.default?_subnet declared finished found isSubnet var

namespace Build

variable {environment : Environment P}

/-- A variable has the declared type of the native one at the end of its way. -/
theorem EndsAt.exists_declaration {registry : Registry P}
    (coherent : environment.classes.Coherent registry) {spec : ProcSpec} {label : String}
    {description last : ClassDescription P} {var place : Nat} {shape : List VariableShape}
    (known : environment.classes.get? label = some description)
    (ends : EndsAt environment spec description var last place shape) {native : Declaration}
    (listed : last.vars[place]? = some native) :
    ∃ declaration, description.vars[var]? = some declaration ∧
      declaration.type = native.type := by
  induction ends generalizing label with
  | native => exact ⟨native, listed, rfl⟩
  | forward isSubnet declared isTarget isSpec isInner indexed _ inductionHypothesis =>
      refine ⟨_, declared, ?_⟩
      obtain ⟨found, there, sameType⟩ := inductionHypothesis isInner listed
      obtain ⟨_, _, _, _, alsoTarget, alsoSpec, alsoInner, isFound, type⟩ :=
        coherent.forwarded _ _ _ known isSubnet _ (List.mem_of_getElem? declared)
      cases isTarget.symm.trans alsoTarget
      cases isSpec.symm.trans alsoSpec
      cases isInner.symm.trans alsoInner
      rw [ClassDescription.declaration?_eq_bind, indexed, Option.bind_some, there] at isFound
      cases isFound
      rw [← sameType, Declaration.type, type]
      rfl

/-! ## Construction -/

/-- What the class of a native proc was given when the proc was made, the declared values with
the arguments of the spec, and what it left. -/
def Constructed (environment : Environment P) (spec : ProcSpec) (description : ClassDescription P)
    (given left : Bank) : Prop :=
  ∃ native device start processor, description.kind = .plain native ∧
    findDevice environment spec = .ok device ∧
      Bank.ofDeclarations description.vars = .ok start ∧
        applyArguments spec spec.arguments.entries start = .ok given ∧
          native.create ⟨spec.label, environment.timing, device.bind (environment.devices[·]?)⟩
            given = .ok (processor, left)

section

variable {spec : ProcSpec} {description : ClassDescription P} {given left : Bank}

theorem Constructed.typed (constructed : Constructed environment spec description given left) :
    given.Typed description.types := by
  obtain ⟨-, -, start, -, -, -, declared, applied, -⟩ := constructed
  exact typed_applyArguments applied (Bank.typed_ofDeclarations declared)

theorem Constructed.settled (constructed : Constructed environment spec description given left)
    (scalarDefaults : ∀ declaration ∈ description.vars, ∀ literal,
      declaration.initial = some literal → literal.Scalar)
    (scalarArguments : ∀ entry ∈ spec.arguments.entries, entry.2.Scalar) :
    given.Settled fun var => entriesFor description spec.arguments.entries var ++
      ((description.vars[var]?).bind (·.initial)).toList := by
  obtain ⟨-, -, start, -, -, -, declared, applied, -⟩ := constructed
  exact settled_applyArguments scalarArguments applied (Bank.laid_ofDeclarations declared)
    (Bank.settled_ofDeclarations scalarDefaults declared)

end

/-- Where the class of a native proc left a channel as it was given, the channel holds what some
settings say. -/
def Settles (environment : Environment P) (own : Template) (head : ProcHead P) (slot : Nat)
    (settings : Terminal → List Literal) (store : Store P) : Prop :=
  ∃ spec given left, own.proc? head.label = some spec ∧
    Constructed environment spec head.description given left ∧
      ∀ var declaration, head.description.vars[var]? = some declaration → ∀ ch value,
        given.get? var ch = some value → left.get? var ch = some value →
          store.Shows ⟨slot, var⟩ ch declaration.type (settings ⟨slot, var⟩)

theorem Settles.mono {own : Template} {head : ProcHead P} {slot : Nat}
    {settings others : Terminal → List Literal} {store after : Store P}
    (settles : Settles environment own head slot settings store)
    (keeps : ∀ var declaration, head.description.vars[var]? = some declaration → ∀ ch,
      store.Shows ⟨slot, var⟩ ch declaration.type (settings ⟨slot, var⟩) →
        after.Shows ⟨slot, var⟩ ch declaration.type (others ⟨slot, var⟩)) :
    Settles environment own head slot others after := by
  obtain ⟨spec, given, left, isSpec, constructed, each⟩ := settles
  exact ⟨spec, given, left, isSpec, constructed, fun var declaration listed ch value isGiven kept =>
    keeps var declaration listed ch (each var declaration listed ch value isGiven kept)⟩

variable [Processor P] {catalogue : Catalogue P} {spec : ProcSpec}
  {description : ClassDescription P} {number : Option Nat} {store after : Store P}

/-- A new native proc holds what its class left. -/
theorem constructed_of_createProc {inner : LevelBuilder P} {head : ProcHead P} {slot : Nat}
    (made : createProc environment inner spec description number store =
      .ok (.native head slot, after)) :
    ∃ given left, head.label = spec.label ∧ head.description = description ∧
      Constructed environment spec description given left ∧
        ∀ var ch, after.place? ⟨slot, var⟩ ch = left.get? var ch := by
  obtain ⟨native, device, cell, rfl, rfl, rfl, isPlain, bound, cellMade⟩ := cell_of_createProc made
  obtain ⟨start, given, declared, applied, created⟩ := createCell_stages cellMade
  refine ⟨given, cell.bank, rfl, rfl,
    ⟨native, device, start, cell.processor, isPlain, bound, declared, applied, created⟩, ?_⟩
  intro var ch
  rw [Store.place?_eq, List.getElem?_concat_length, Option.bind_some]

/-- A new native proc is set by its arguments and its class. -/
theorem settles_of_createNative (regular : environment.classes.Regular catalogue)
    {inner : LevelBuilder P} {own : Template} (isSpec : own.proc? spec.label = some spec)
    (known : environment.classes.get? spec.className = some description)
    (scalarArguments : ∀ entry ∈ spec.arguments.entries, entry.2.Scalar) {head : ProcHead P}
    {slot : Nat} (made : createProc environment inner spec description number store =
      .ok (.native head slot, after)) :
    Settles environment own head slot
      (fun terminal => (Proc.native head slot).settings catalogue terminal spec) after := by
  obtain ⟨given, left, labelled, rfl, constructed, held⟩ := constructed_of_createProc made
  refine ⟨spec, given, left, labelled ▸ isSpec, constructed, ?_⟩
  intro var declaration listed ch value isGiven kept
  have below : var < head.description.vars.length := (List.getElem?_eq_some_iff.mp listed).1
  have isType := constructed.typed.type_of_get? isGiven
  rw [ClassDescription.types, List.getElem?_map, listed] at isType
  have settled := constructed.settled
    (regular.scalar _ (List.mem_of_find?_eq_some known)) scalarArguments
  refine ⟨value, (held var ch).trans kept, (Option.some.inj isType).symm,
    (settled var ch value isGiven).congr ?_⟩
  obtain ⟨native, -, -, -, isPlain, -⟩ := constructed
  have same := head?_setting? catalogue head.description spec var []
  rw [List.append_nil, List.append_nil, regular.plain _ _ _ known isPlain] at same
  beta_reduce
  rw [Proc.settings, Proc.ownSetting?_of_mem (Proc.separated_native _ _)
    (by rw [Proc.terminals]; exact List.mem_singleton_self _) below]
  exact same

/-- Over an untangled class set, every proc leads to each place by one variable. -/
theorem separated_of_buildNested (untangled : environment.classes.Untangled) {depth : Nat}
    {template : Template} {around : Option Nat} {exposed : List VarRef} {level : Level P}
    (built : buildNested environment depth template around exposed store = .ok (level, after)) :
    ∀ proc ∈ level.procs, proc.Separated := by
  refine Level.separated (numbersCells_buildNested _ _ _ _ _ _ _ _ built).nodup
    fun inside within proc member => ⟨resolved_of_buildNested built within proc member, ?_⟩
  refine forall_within_of_buildNested
    (motive := fun level => ∀ proc ∈ level.procs, ∀ below, proc.inner? = some below →
      (proc.description.vars.map (·.target)).Nodup) ?_ built within proc member
  intro depth template around exposed store created middle level after assembled proc member below
    isSubnet
  cases proc with
  | native => cases isSubnet
  | subnet head procs order presets targets =>
      obtain ⟨spec, own, before, next, known, kind, -, -⟩ := assembled.subnet_of_mem member
      exact untangled.nodup_targets known kind

/-- What a subnet and its arguments say about a native variable in it comes in front of what is
set inside. -/
theorem shows_settings_of_writeSubnet (regular : environment.classes.Regular catalogue)
    {proc : Proc P} {below : Level P} {template : Template} (isSubnet : proc.inner? = some below)
    (kind : proc.description.kind = .subnet template)
    (known : environment.classes.get? spec.className = some proc.description)
    (separated : proc.Separated) (follows : proc.Follows environment store.shape spec)
    (nodup : below.slots.Nodup) {head : ProcHead P} {slot : Nat}
    (isLeaf : (head, slot) ∈ below.leaves)
    (scalarArguments : ∀ entry ∈ spec.arguments.entries, entry.2.Scalar)
    (literals : writeSubnet spec proc store = .ok after) {var ch : Nat} {declaration : Declaration}
    (listed : head.description.vars[var]? = some declaration)
    (shows : store.Shows ⟨slot, var⟩ ch declaration.type
      (settingsOf catalogue ⟨slot, var⟩ template below.procs)) :
    after.Shows ⟨slot, var⟩ ch declaration.type
      (proc.settings catalogue ⟨slot, var⟩ spec) := by
  rw [Proc.settings_of_inner? isSubnet kind]
  by_cases reached : ∃ outer, (⟨slot, var⟩ : Terminal) ∈ proc.terminals outer
  · obtain ⟨outer, leads⟩ := reached
    obtain ⟨other, reaches⟩ := Proc.mem_terminals_iff.mp leads
    obtain rfl := reaches.head_eq isSubnet nodup isLeaf
    obtain ⟨shape, -, ends⟩ := follows outer other _ reaches
    obtain ⟨declared, isDeclared, sameType⟩ :=
      ends.exists_declaration regular.coherent known listed
    have type : typeOf proc outer = declaration.type := by
      rw [typeOf, Proc.declaration?, isDeclared, ← sameType]
      rfl
    obtain ⟨value, there, -⟩ := id shows
    rw [← type] at shows ⊢
    have written := shows_of_writeSubnet leads (fun other => separated _ outer other leads)
      scalarArguments (regular.scalar _ (List.mem_of_find?_eq_some known)) literals
      (follows.uniform.lt_channelCount leads there) shows
    refine written.congr rfl ?_
    rw [Proc.ownSetting?_of_mem separated leads (List.getElem?_eq_some_iff.mp isDeclared).1,
      head?_setting?, regular.subnet _ _ _ known kind]
  · have outside : ∀ outer, (⟨slot, var⟩ : Terminal) ∉ proc.terminals outer :=
      fun outer leads => reached ⟨outer, leads⟩
    rw [Proc.ownSetting?_eq_none outside]
    exact shows.congr ((written_writeSubnet literals).place?_unchanged reached ch) rfl

/-- A new subnet is set by its arguments and its class, and behind that by what is in it. -/
theorem settles_of_createSubnet (regular : environment.classes.Regular catalogue) {depth : Nat}
    (known : environment.classes.get? spec.className = some description)
    (scalarArguments : ∀ entry ∈ spec.arguments.entries, entry.2.Scalar) {proc : Proc P}
    (made : createProc environment (buildNested environment depth) spec description number store =
      .ok (proc, after)) {below inside : Level P} (isSubnet : proc.inner? = some below)
    {template own : Template} (isOwn : proc.description.kind = .subnet template)
    (within : below.Within inside) {head : ProcHead P} {slot : Nat}
    (member : .native head slot ∈ inside.procs)
    (settles : ∀ exposed middle, buildNested environment depth template proc.head.replica exposed
        store = .ok (below, middle) →
      Settles environment own head slot
        (fun terminal => settingsOf catalogue terminal template below.procs) middle) :
    Settles environment own head slot (fun terminal => proc.settings catalogue terminal spec)
      after := by
  have follows := (follows_createProc (followsTemplates_buildNested environment depth) made).2
  have origin := origin_of_createProc made
  obtain rfl : proc.head.replica = number := congrArg (·.2.1) origin
  obtain rfl : proc.description = description := congrArg (·.2.2) origin
  obtain ⟨_, middle, targets, device, kind, levelBuilt, forwarded, isProc, literals⟩ :=
    level_of_createProc made isSubnet
  rw [(written_writeSubnet literals).shape_eq] at follows
  cases isOwn.symm.trans kind
  have nodup : below.slots.Nodup := (numbersCells_buildNested _ _ _ _ _ _ _ _ levelBuilt).nodup
  have separated : proc.Separated := by
    rw [isProc]
    exact Proc.separated_subnet ⟨spec, forwarded⟩ (regular.untangled.nodup_targets known kind) nodup
      (separated_of_buildNested regular.untangled levelBuilt)
  exact (settles _ middle levelBuilt).mono fun var declaration listed ch shows =>
    shows_settings_of_writeSubnet regular isSubnet kind known separated follows nodup
      (within.mem_leaves member) scalarArguments literals listed shows

theorem applyConstructionPresets_of_none {items : List (Proc P × ProcSpec)}
    (quiet : ∀ item ∈ items, item.2.preset = none) :
    applyConstructionPresets items store = .ok store := by
  induction items with
  | nil => rfl
  | cons item rest inductionHypothesis =>
      obtain ⟨proc, spec⟩ := item
      obtain ⟨here, others⟩ := List.forall_mem_cons.mp quiet
      rw [applyConstructionPresets]
      dsimp only at here
      rw [here]
      exact inductionHypothesis others

section

variable {depth : Nat} {template own : Template} {around : Option Nat} {exposed : List VarRef}
  {middle : Store P} {created : List (Proc P × ProcSpec)} {level : Level P} {head : ProcHead P}
  {slot : Nat}

theorem Assembled.proc?_of_created (assembled : Assembled environment
      (buildNested environment depth) template around exposed store created middle level after)
    {made : Proc P} (wasCreated : (made, spec) ∈ created) (inputs : List Connection) :
    template.proc? (made.withInputs inputs).label = some spec := by
  obtain ⟨_, _, _, _, listed, -, creation⟩ := assembled.made.of_mem wasCreated
  have labelled : made.label = spec.label := congrArg (·.1) (origin_of_createProc creation)
  rw [Proc.label_withInputs, labelled]
  exact proc?_of_mem (nodup_of_duplicate? assembled.distinct).1 listed

/-- What set a native variable in a new proc is what sets it on the level of that proc, where no
presets are asked for. -/
theorem settles_of_created (assembled : Assembled environment (buildNested environment depth)
      template around exposed store created middle level after) (nodup : level.slots.Nodup)
    (simple : template.Simple) {made : Proc P} (wasCreated : (made, spec) ∈ created)
    {inputs : List Connection} (member : made.withInputs inputs ∈ level.procs)
    (inside : slot ∈ made.slots)
    (settles : ∀ description number before next,
      environment.classes.get? spec.className = some description →
        createProc environment (buildNested environment depth) spec description number before =
            .ok (made, next) →
          Settles environment own head slot
            (fun terminal => made.settings catalogue terminal spec) next) :
    Settles environment own head slot
      (fun terminal => settingsOf catalogue terminal template level.procs) after := by
  obtain ⟨description, numbers, number, before, next, -, known, -, -, creation, rest, kept⟩ :=
    exists_voice_of_created (relocates_buildNested environment depth) assembled.made wasCreated
  have unchanged : after = middle := by
    have preset := assembled.preset
    rw [applyConstructionPresets_of_none] at preset
    · exact (Except.ok.inj preset).symm
    · rintro ⟨proc, other⟩ isItem
      obtain ⟨otherMade, otherInputs, alsoCreated, -⟩ :=
        exists_created_of_mem_zip assembled.bound isItem
      obtain ⟨-, -, -, -, isSpec, -, -⟩ := assembled.made.of_mem alsoCreated
      exact (simple other isSpec).1
  have sameCell : after[slot]? = next[slot]? := by
    have numbered := numbered_createProc (numbersCells_buildNested environment depth) creation
    rw [unchanged, ← kept, List.getElem?_append_left (numbered.lt inside)]
  have isSpec := assembled.proc?_of_created wasCreated inputs
  refine (settles description number before next known creation).mono
    fun var declaration _ ch shows => shows.congr (Store.place?_congr sameCell ch) ?_
  rw [settingsOf_of_mem nodup member isSpec (by rw [Proc.slots_withInputs]; exact inside),
    Proc.settings_withInputs]

theorem settles_of_native (regular : environment.classes.Regular catalogue)
    (assembled : Assembled environment (buildNested environment depth) template around exposed
      store created middle level after) (nodup : level.slots.Nodup) (simple : template.Simple)
    (member : .native head slot ∈ level.procs) :
    Settles environment template head slot
      (fun terminal => settingsOf catalogue terminal template level.procs) after := by
  obtain ⟨⟨made, spec⟩, wasCreated, inputs, isMade⟩ :=
    exists_created_of_bindInputs assembled.bound member
  obtain ⟨-, -, -, -, listed, -, -⟩ := assembled.made.of_mem wasCreated
  have isSpec := proc?_of_mem (nodup_of_duplicate? assembled.distinct).1 listed
  cases made with
  | subnet => cases isMade
  | native made =>
      cases isMade
      have settles : Settles environment template made slot
          (fun terminal => settingsOf catalogue terminal template level.procs) after :=
        settles_of_created assembled nodup simple wasCreated member (List.mem_singleton_self _)
          fun _ _ _ _ known creation =>
            settles_of_createNative regular isSpec known (simple spec listed).2 creation
      exact settles

/-- Below a subnet of a level, native variables are settled if they are on the level in it. -/
theorem settles_of_subnet (regular : environment.classes.Regular catalogue)
    (assembled : Assembled environment (buildNested environment depth) template around exposed
      store created middle level after) (nodup : level.slots.Nodup) (simple : template.Simple)
    {proc : Proc P} (isProc : proc ∈ level.procs) {below inside : Level P}
    (isSubnet : proc.inner? = some below) {inner : Template}
    (isInner : proc.description.kind = .subnet inner) (within : below.Within inside)
    (member : .native head slot ∈ inside.procs)
    (settles : ∀ exposed before middle, buildNested environment depth inner proc.head.replica
        exposed before = .ok (below, middle) →
      Settles environment own head slot
        (fun terminal => settingsOf catalogue terminal inner below.procs) middle) :
    Settles environment own head slot
      (fun terminal => settingsOf catalogue terminal template level.procs) after := by
  obtain ⟨⟨made, spec⟩, wasCreated, inputs, rfl⟩ :=
    exists_created_of_bindInputs assembled.bound isProc
  obtain ⟨-, -, -, -, listed, -, -⟩ := assembled.made.of_mem wasCreated
  have sameNumber : (made.withInputs inputs).head.replica = made.head.replica :=
    congrArg (·.2.1) (made.origin_withInputs inputs)
  rw [Proc.inner?_withInputs] at isSubnet
  rw [Proc.description_withInputs] at isInner
  have isInside : slot ∈ made.slots :=
    Proc.slot_mem_of_within isSubnet within member (List.mem_singleton_self slot)
  refine settles_of_created assembled nodup simple wasCreated isProc isInside ?_
  intro description number before next known creation
  refine settles_of_createSubnet regular known (simple spec listed).2 creation isSubnet isInner
    within member fun exposed middle levelBuilt => settles exposed before middle ?_
  rw [sameNumber]
  exact levelBuilt

end

/-- Every native variable on a built level, at any depth, is settled. -/
theorem settles_of_buildNested (regular : environment.classes.Regular catalogue) (depth : Nat) :
    ∀ template around exposed store level after,
      buildNested environment depth template around exposed store = .ok (level, after) →
        (∀ last, Template.Within environment.classes template last → last.Simple) →
          ∀ own number inside, Level.Unfolds template around level own number inside →
            ∀ head slot, .native head slot ∈ inside.procs →
              Settles environment own head slot
                (fun terminal => settingsOf catalogue terminal template level.procs) after := by
  induction depth with
  | zero =>
      intro template around exposed store level after built
      cases built
  | succ depth inductionHypothesis =>
      intro template around exposed store level after built simple own number inside unfolds head
        slot member
      obtain ⟨created, middle, assembled⟩ := assembled_of_buildLevel built
      have nodup : level.slots.Nodup :=
        (numbersCells_buildNested environment (depth + 1) _ _ _ _ _ _ built).nodup
      have isSimple := simple template (.self template)
      cases unfolds with
      | self => exact settles_of_native regular assembled nodup isSimple member
      | @inner _ inner _ _ _ _ below _ proc isProc isSubnet isInner deeper =>
          obtain ⟨spec, listed, -, known⟩ := assembled.exists_spec isProc
          refine settles_of_subnet regular assembled nodup isSimple isProc isSubnet isInner
            deeper.within member fun exposed before middle levelBuilt => ?_
          exact inductionHypothesis _ _ _ _ _ _ levelBuilt
            (fun last within => simple last (.inner listed known isInner within)) _ _ _ deeper _ _
            member

end Build

/-! ## Precedence -/

/-- Over the class set that any tables finish with, if no two variables of a subnet stand for the
same one and all defaults are scalars, building a template in which all arguments are scalars and
no proc asks for a preset leaves every native variable with what the outermost setting says.
Each native proc comes from a spec, and its class was given a bank. Every channel that the class
left as it was given holds the first setting of the variable, in the declared type. Settings
are listed from the outside inwards, one for each proc on the way that has any: its argument, or
else the default that its class itself declares. Without any, the channel holds zero. A default
that a variable of a subnet has only taken over from inside is no setting, so it overrides
nothing. -/
theorem outermost_setting_wins [Processor P] (registry : Registry P)
    (tables : List (List (String × Toml))) {classes : ClassSet P}
    (finished : ((Catalogue.empty registry).addTables tables).finish = .ok classes)
    (untangled : classes.Untangled) (scalar : classes.ScalarDefaults) {template : Template}
    (simple : ∀ own, Template.Within classes template own → own.Simple) {timing : Timing}
    {devices : List Device} {network : Network P}
    (built : Network.build classes template timing devices = .ok network) :
    let catalogue := (Catalogue.empty registry).addTables tables
    (∀ inside, network.level.Within inside →
        ∃ own number, Level.Unfolds template none network.level own number inside) ∧
      (∀ label description own, classes.get? label = some description →
        description.kind = .subnet own → ∀ var declaration,
          description.vars[var]? = some declaration → declaration.inherited = true →
            ∀ spec : ProcSpec, spec.argument? description var = none →
              catalogue.setting? spec description var = none) ∧
      ∀ own number inside, Level.Unfolds template none network.level own number inside →
        ∀ head slot, .native head slot ∈ inside.procs →
          ∃ spec given left, own.proc? head.label = some spec ∧
            Build.Constructed ⟨classes, timing, devices⟩ spec head.description given left ∧
              ∀ var declaration, head.description.vars[var]? = some declaration → ∀ ch value,
                given.get? var ch = some value → left.get? var ch = some value →
                  ∃ held, network.store.place? ⟨slot, var⟩ ch = some held ∧
                    match (settingsOf catalogue ⟨slot, var⟩ template
                        network.level.procs).head? with
                    | some literal => literal.toValue declaration.type = .ok held
                    | none => held = Value.zero declaration.type := by
  intro catalogue
  have nested := (Build.buildNested_of_build built).1
  have regular : classes.Regular catalogue :=
    (Catalogue.wellFormed_addTables registry tables).1.regular
      (Catalogue.declared_addTables registry tables) finished untangled scalar
  refine ⟨fun inside within => Build.exists_unfolds_of_buildNested nested within, ?_, ?_⟩
  · intro label description own known isSubnet var declaration listed inherited spec noArgument
    rw [Catalogue.setting?, noArgument, Option.none_or, regular.subnet _ _ _ known isSubnet, listed,
      Option.bind_some, Declaration.own?, if_pos inherited]
  intro own number inside unfolds head slot member
  obtain ⟨spec, given, left, isSpec, constructed, each⟩ :=
    Build.settles_of_buildNested regular _ _ _ _ _ _ _ nested simple own number inside unfolds head
      slot member
  refine ⟨spec, given, left, isSpec, constructed, ?_⟩
  intro var declaration listed ch value isGiven kept
  obtain ⟨held, there, isType, comesFrom⟩ := each var declaration listed ch value isGiven kept
  rw [Value.ComesFrom, isType] at comesFrom
  exact ⟨held, there, comesFrom⟩

namespace Shells

/-- The outer shell with an argument of its own, fed by a counter. -/
def argued : Template :=
  ⟨[⟨"clock", "counter", .empty, [], none, none, none⟩,
    { shellSpec with arguments := .ofList [("level", .int 2)] }], []⟩

end Shells

/-- The argument of the outer shell wins over the default that its class declares, and is held by
a number inside the inner one. -/
theorem shells_hold_argument :
    ∃ (network : Network Builtin) (inside : Level Builtin) (head : ProcHead Builtin),
      Network.build Shells.classes Shells.argued .standard [] = .ok network ∧
        Level.Unfolds Shells.argued none network.level (Shells.core "number" none) (some 0)
            inside ∧
          .native head 1 ∈ inside.procs ∧
            network.store.place? ⟨1, 0⟩ 0 = some (.double 2) := by
  have built : Network.build Shells.classes Shells.argued .standard [] = .ok _ := rfl
  have wins := (outermost_setting_wins Registry.builtin Shells.tables Shells.finish_eq (by decide)
    (by decide) (fun own within => within.simple (by decide) (by decide)) built).2.2
  refine ⟨_, _, _, built, .inner (List.mem_of_getElem? (i := 1) rfl) rfl rfl
    (.inner (List.mem_of_getElem? (i := 0) rfl) rfl rfl (.self _ _ _)), List.mem_cons_self, ?_⟩
  obtain ⟨spec, given, left, isSpec, constructed, each⟩ := wins _ _ _
    (.inner (List.mem_of_getElem? (i := 1) rfl) rfl rfl
      (.inner (List.mem_of_getElem? (i := 0) rfl) rfl rfl (.self _ _ _))) _ 1 List.mem_cons_self
  cases Option.some.inj isSpec
  obtain ⟨native, device, start, processor, isPlain, bound, declared, applied, created⟩ :=
    constructed
  cases isPlain
  cases bound
  cases declared
  cases applied
  cases created
  obtain ⟨held, there, converted⟩ := each 0 _ rfl 0 _ rfl rfl
  have isHeld : (Literal.int 2).toValue .double = .ok held := converted
  cases isHeld
  exact there

end SignalNet
