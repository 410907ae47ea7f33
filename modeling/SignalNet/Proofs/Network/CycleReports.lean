import SignalNet.Native.Builtin
import SignalNet.Proofs.Network.Begun
import SignalNet.Proofs.Network.Linkage
import SignalNet.Proofs.Network.StuckReleases

/-!
Contract: what it means that a circle of connections is reported.

A level is refused when a proc asks for a connection from itself, and when the releases get
stuck, which names the first proc that leads to a circle. So some proc with the reported label
leads to a circle, but it need not be on one.

No other stage of building reports a circle, so the report comes from the connections of one
level, which was begun for the template or for a subnet in it.

Owns: connections as the specs of a level ask for them (`Build.AsksFor`), the stages that report
no circle (`Build.Silent`), and the law of the report (`reported_leads_to_circle`).
-/

set_option autoImplicit false

namespace SignalNet

open Relation (TransGen)

/-! ## Connections as they are asked for -/

namespace Build

variable {P : Type}

/-- The spec of the first proc asks for a connection from the second one, which is the proc that
the label of its source stands for. -/
def AsksFor (created : List (Proc P × ProcSpec)) (reader source : Nat) : Prop :=
  ∃ proc spec, created[reader]? = some (proc, spec) ∧ ∃ input ∈ spec.inputs, ∃ reference,
    VarRef.parse input.source = .ok reference ∧
      findSource (created.map (·.1)) reference.proc proc.head.replica = some source

/-- A report of a circle names a proc that leads to one: a proc that asks for a connection from
itself, or the first proc of all that lead to a circle. -/
structure ReportedAt (created : List (Proc P × ProcSpec)) (label : String) (position : Nat) :
    Prop where
  labelled : ∃ proc spec, created[position]? = some (proc, spec) ∧ proc.label = label
  leads : LeadsToCircle (AsksFor created) position
  first : AsksFor created position position ∨
    ∀ earlier < position, ¬ LeadsToCircle (AsksFor created) earlier

variable {created : List (Proc P × ProcSpec)} {procs : List (Proc P)} {label : String}

/-- Procs that are bound read from those that their specs ask for. -/
theorem readsFrom_iff_asksFor (bound : bindInputs created = .ok procs) (reader source : Nat) :
    ReadsFrom (connectionSources procs) reader source ↔ AsksFor created reader source := by
  obtain ⟨sameLength, each⟩ := bindInputs_spec bound
  rw [ReadsFrom, sourcesAt, connectionSources, List.getElem?_map]
  cases there : created[reader]? with
  | none =>
      have absent : procs[reader]? = none := by
        rw [List.getElem?_eq_none_iff] at there ⊢
        omega
      rw [absent]
      refine iff_of_false List.not_mem_nil ?_
      rintro ⟨proc, spec, here, -⟩
      cases there.symm.trans here
  | some item =>
      obtain ⟨proc, spec⟩ := item
      obtain ⟨inputs, resolved, isBound⟩ := each reader proc spec there
      rw [isBound, Option.map_some, Option.getD_some, Proc.inputs_withInputs, List.mem_map]
      have related := mapM_eq_ok.mp resolved
      constructor
      · rintro ⟨connection, isInput, rfl⟩
        obtain ⟨input, asked, accepted⟩ := exists_of_mem_forall₂ related isInput
        obtain ⟨reference, parsed, found⟩ := (bound_of_bindInput accepted).source
        exact ⟨proc, spec, there, input, asked, reference, parsed, found⟩
      · rintro ⟨_, _, here, input, asked, reference, parsed, found⟩
        cases there.symm.trans here
        obtain ⟨connection, isInput, accepted⟩ := exists_of_mem_forall₂ related.flip asked
        obtain ⟨other, alsoParsed, alsoFound⟩ := (bound_of_bindInput accepted).source
        cases parsed.symm.trans alsoParsed
        exact ⟨connection, isInput, Option.some.inj (alsoFound.symm.trans found)⟩

/-- The resolution of a connection reports a circle where a proc asks for itself. -/
theorem self_of_bindInput {position : Nat} {proc : Proc P} {input : InputSpec}
    (failed : bindInput procs position proc input = .error (.connectionCycle label)) :
    proc.label = label ∧ ∃ reference, VarRef.parse input.source = .ok reference ∧
      findSource procs reference.proc proc.head.replica = some position := by
  unfold bindInput at failed
  dsimp only at failed
  split at failed
  · cases failed
  · split at failed
    · cases failed
    · rename_i reference parsed
      split at failed
      · cases failed
      · rename_i sourceProc found
        split at failed
        · rename_i itself
          cases failed
          exact ⟨rfl, reference, parsed, itself ▸ found⟩
        · split at failed
          · cases failed
          · split at failed
            · split at failed <;> cases failed
            · cases failed

theorem reportedAt_of_bindInputs
    (failed : bindInputs created = .error (.connectionCycle label)) :
    ∃ position, ReportedAt created label position := by
  obtain ⟨⟨⟨proc, spec⟩, position⟩, listed, failed⟩ := exists_of_mapM_error failed
  obtain ⟨input, asked, failed⟩ := exists_of_mapM_error (map_eq_error.mp failed)
  obtain ⟨labelled, reference, parsed, found⟩ := self_of_bindInput failed
  have here : created[position]? = some (proc, spec) :=
    List.mem_zipIdx_iff_getElem?.mp listed
  have itself : AsksFor created position position :=
    ⟨proc, spec, here, input, asked, reference, parsed, found⟩
  exact ⟨position, ⟨proc, spec, here, labelled⟩, .of_self itself, .inl itself⟩

theorem reportedAt_of_orderProcs (bound : bindInputs created = .ok procs)
    (failed : orderProcs procs = .error (.connectionCycle label)) :
    ∃ position, ReportedAt created label position := by
  have sameGraph := readsFrom_iff_asksFor bound
  have inRange : InRange (connectionSources procs) := by
    refine inRange_connectionSources fun proc member connection isInput => ?_
    obtain ⟨source, -, -, isSource, -⟩ := connects_of_bindInputs bound member isInput
    exact (List.getElem?_eq_some_iff.mp isSource).1
  obtain ⟨stuck, released, named⟩ := mapError_eq_error.mp failed
  obtain ⟨leads, first⟩ := releaseOrder_eq_error inRange released
  -- a proc that leads somewhere asks for something, so it is one of those that were made
  obtain ⟨source, reads, -⟩ := (LeadsToCircle.congr sameGraph).mp leads |>.exists_next
  obtain ⟨proc, spec, here, -⟩ := reads
  obtain ⟨inputs, -, isBound⟩ := (bindInputs_spec bound).2 stuck proc spec here
  rw [isBound, Option.map_some, Option.getD_some, Proc.label_withInputs] at named
  exact ⟨stuck, ⟨proc, spec, here, NetworkError.connectionCycle.inj named⟩,
    (LeadsToCircle.congr sameGraph).mp leads,
    .inr fun earlier before => mt (LeadsToCircle.congr sameGraph).mpr (first earlier before)⟩

/-! ## Stages that report no circle -/

/-- An outcome other than the report of a circle. -/
def Silent {α : Type} (outcome : Except NetworkError α) : Prop :=
  ∀ label, outcome ≠ .error (.connectionCycle label)

section

variable {α β : Type}

theorem silent_ok (result : α) : Silent (.ok result) :=
  fun _ impossible => nomatch impossible

theorem Silent.bind {first : Except NetworkError α} {next : α → Except NetworkError β}
    (here : Silent first) (later : ∀ result, Silent (next result)) : Silent (first >>= next) := by
  intro label failed
  rcases bind_eq_error.mp failed with refused | ⟨result, -, refused⟩
  · exact here label refused
  · exact later result label refused

theorem silent_mapError {ε : Type} {outcome : Except ε α} {rename : ε → NetworkError}
    (renames : ∀ fault label, rename fault ≠ .connectionCycle label) :
    Silent (outcome.mapError rename) := by
  intro label failed
  obtain ⟨fault, -, named⟩ := mapError_eq_error.mp failed
  exact renames fault label named

theorem silent_mapM {f : α → Except NetworkError β} {items : List α}
    (each : ∀ item, Silent (f item)) : Silent (items.mapM f) := by
  intro label failed
  obtain ⟨item, -, refused⟩ := exists_of_mapM_error failed
  exact each item label refused

theorem silent_forM {f : α → Except NetworkError Unit} {items : List α}
    (each : ∀ item, Silent (f item)) : Silent (items.forM f) := by
  intro label failed
  obtain ⟨item, -, refused⟩ := exists_of_forM_error failed
  exact each item label refused

theorem silent_foldlM {f : β → α → Except NetworkError β} {items : List α} {start : β}
    (each : ∀ state item, Silent (f state item)) : Silent (items.foldlM f start) := by
  intro label failed
  obtain ⟨item, -, state, refused⟩ := exists_of_foldlM_error failed
  exact each state item label refused

end

theorem silent_voices (description : ClassDescription P) (spec : ProcSpec)
    (replica : Option Nat) : Silent (voices description spec replica) := by
  intro label failed
  unfold voices at failed
  split at failed
  · cases failed
  · split at failed
    · cases failed
    · split at failed <;> cases failed

theorem silent_findDevice (environment : Environment P) (spec : ProcSpec) :
    Silent (findDevice environment spec) := by
  intro label failed
  unfold findDevice at failed
  split at failed
  · cases failed
  · split at failed <;> cases failed

theorem silent_applyArguments (spec : ProcSpec) (entries : List (String × Literal))
    (bank : Bank) : Silent (applyArguments spec entries bank) := by
  induction entries generalizing bank with
  | nil => exact silent_ok bank
  | cons entry rest inductionHypothesis =>
      obtain ⟨name, literal⟩ := entry
      intro label failed
      unfold applyArguments at failed
      split at failed
      · cases failed
      · split at failed
        · cases failed
        · exact inductionHypothesis _ label failed

theorem silent_createCell (environment : Environment P) (spec : ProcSpec)
    (description : ClassDescription P) (native : NativeClass P) (device : Option Nat) :
    Silent (createCell environment spec description native device) := by
  unfold createCell
  split
  · exact fun _ refused => nomatch refused
  · refine (silent_mapError (by rintro ⟨⟩ _ ⟨⟩)).bind fun _ => ?_
    refine (silent_applyArguments spec _ _).bind fun _ => ?_
    exact (silent_mapError (by rintro _ _ ⟨⟩)).bind fun _ => silent_ok _

theorem silent_forwards (spec : ProcSpec) (procs : List (Proc P)) (declaration : Declaration) :
    Silent (forwards spec procs declaration) := by
  intro label failed
  unfold forwards at failed
  split at failed
  · cases failed
  · dsimp only at failed
    split at failed <;> cases failed

theorem silent_checkPolyLimits (procs : List (Proc P)) : Silent (checkPolyLimits procs) := by
  refine silent_forM fun proc label failed => ?_
  dsimp only at failed
  split at failed
  · split at failed <;> cases failed
  · cases failed

theorem silent_checkSources (exposed : List VarRef) (procs : List (Proc P)) :
    Silent (checkSources exposed procs) := by
  refine silent_forM fun proc => silent_forM fun item label failed => ?_
  dsimp only at failed
  split at failed <;> cases failed

variable [Processor P]

theorem silent_writeLiteral (proc : Proc P) (var : Nat) (literal : Literal)
    (channels : List Nat) (store : Store P) :
    Silent (writeLiteral proc var literal channels store) := by
  induction channels generalizing store with
  | nil => exact silent_ok store
  | cons ch rest inductionHypothesis =>
      intro label failed
      unfold writeLiteral at failed
      split at failed
      · exact inductionHypothesis _ label failed
      · dsimp only at failed
        split at failed
        · cases failed
        · split at failed
          · cases failed
          · exact inductionHypothesis _ label failed

theorem silent_writeSubnet (spec : ProcSpec) (proc : Proc P) (store : Store P) :
    Silent (writeSubnet spec proc store) := by
  refine (silent_foldlM fun _ _ => silent_writeLiteral _ _ _ _ _).bind fun _ => ?_
  refine silent_foldlM fun store (name, literal) label failed => ?_
  dsimp only at failed
  split at failed
  · exact silent_writeLiteral _ _ _ _ _ label failed
  · cases failed

theorem silent_applyConstructionPresets (procs : List (Proc P × ProcSpec)) (store : Store P) :
    Silent (applyConstructionPresets procs store) := by
  induction procs generalizing store with
  | nil => exact silent_ok store
  | cons item rest inductionHypothesis =>
      obtain ⟨proc, spec⟩ := item
      intro label failed
      unfold applyConstructionPresets at failed
      split at failed
      · exact inductionHypothesis _ label failed
      · split at failed
        · cases failed
        · exact inductionHypothesis _ label failed

/-! ## The level of a report -/

variable {environment : Environment P} {inner : LevelBuilder P}

/-- A proc whose making reports a circle is a subnet, and the level in it reports the circle. -/
theorem template_of_createProc_error {spec : ProcSpec} {description : ClassDescription P}
    {number : Option Nat} {store : Store P}
    (failed : createProc environment inner spec description number store =
      .error (.connectionCycle label)) :
    ∃ template, description.kind = .subnet template ∧
      inner template number (description.vars.filterMap (·.target)) store =
        .error (.connectionCycle label) := by
  unfold createProc at failed
  rcases bind_eq_error.mp failed with refused | ⟨device, -, failed⟩
  · exact absurd refused (silent_findDevice environment spec label)
  · dsimp only at failed
    split at failed
    · rename_i native isPlain
      exact absurd failed ((silent_createCell environment spec description native device).bind
        (fun _ => silent_ok _) label)
    · rename_i template isSubnet
      refine ⟨template, isSubnet, ?_⟩
      rcases bind_eq_error.mp failed with refused | ⟨⟨level, built⟩, -, failed⟩
      · exact refused
      · refine absurd failed (Silent.bind (silent_mapM (silent_forwards spec level.procs))
          (fun targets => ?_) label)
        exact (silent_writeSubnet spec _ _).bind fun _ => silent_ok _

/-- A level that reports a circle has one among its own procs, or has begun a level below that
reports it. -/
theorem report_of_buildLevel {outer : Request P}
    (failed : outer.build (buildLevel environment inner) = .error (.connectionCycle label)) :
    (∃ created store, createProcs environment inner outer.replica outer.template.procs
        outer.store = .ok (created, store) ∧ ∃ position, ReportedAt created label position) ∨
      ∃ below, Opens environment inner outer below ∧
        below.build inner = .error (.connectionCycle label) := by
  unfold Request.build buildLevel at failed
  split at failed
  · cases failed
  · rename_i distinct
    rcases bind_eq_error.mp failed with refused | ⟨⟨created, store⟩, made, failed⟩
    · obtain ⟨before, spec, after, created, middle, split, made, cause⟩ :=
        exists_spec_of_createProcs_error refused
      rcases cause with unknown | ⟨description, known, refused | ⟨numbers, numbered, refused⟩⟩
      · cases unknown
      · exact absurd refused (silent_voices description spec outer.replica label)
      obtain ⟨earlier, number, later, voiced, reached, rfl, sounding, refused⟩ :=
        exists_voice_of_createVoices_error refused
      obtain ⟨template, isSubnet, refused⟩ := template_of_createProc_error refused
      exact .inr ⟨_, ⟨distinct, split, made, known, numbered, sounding, isSubnet⟩, refused⟩
    · refine .inl ⟨created, store, made, ?_⟩
      -- of the stages that are left, only binding and ordering can report a circle
      rcases bind_eq_error.mp failed with refused | ⟨_, -, failed⟩
      · exact absurd refused (silent_checkPolyLimits _ label)
      rcases bind_eq_error.mp failed with refused | ⟨procs, bound, failed⟩
      · exact reportedAt_of_bindInputs refused
      rcases bind_eq_error.mp failed with refused | ⟨_, -, failed⟩
      · exact absurd refused (silent_checkSources _ _ label)
      rcases bind_eq_error.mp failed with refused | ⟨order, -, failed⟩
      · exact reportedAt_of_orderProcs bound refused
      · exact absurd failed (Silent.bind (silent_applyConstructionPresets _ _)
          (fun _ => silent_ok _) label)

/-- The level is refused for a circle that its own procs read in: they are all made, and the one
that is named leads to the circle. -/
structure RefusedFor (environment : Environment P) (depth : Nat) (level : Request P)
    (label : String) : Prop where
  refused : level.build (buildNested environment (depth + 1)) = .error (.connectionCycle label)
  named : ∃ created store, createProcs environment (buildNested environment depth) level.replica
      level.template.procs level.store = .ok (created, store) ∧
    ∃ position, ReportedAt created label position

/-- A report comes from a level that was begun, and whose own procs read in a circle. -/
theorem refusedFor_of_buildNested {depth : Nat} {outer : Request P}
    (failed : outer.build (buildNested environment depth) = .error (.connectionCycle label)) :
    ∃ below level, Begins environment depth outer (below + 1) level ∧
      RefusedFor environment below level label := by
  induction depth generalizing outer with
  | zero => cases failed
  | succ depth inductionHypothesis =>
      rcases report_of_buildLevel failed with named | ⟨inside, opens, refused⟩
      · exact ⟨depth, outer, .self (depth + 1) outer, failed, named⟩
      · obtain ⟨below, level, begins, refusedFor⟩ := inductionHypothesis refused
        exact ⟨below, level, .inner opens begins, refusedFor⟩

end Build

/-! ## Reports -/

section

variable {P : Type} [Processor P] {classes : ClassSet P} {template : Template} {timing : Timing}
  {devices : List Device} {label : String}

open Build in
/-- When building reports a circle, a level has been begun, the template's own or one below it,
whose procs are all made and whose own connections are refused. A proc of that level has the
reported label, and it reads from itself or, directly or through others, from a proc that does: it
asks for a connection from itself, or is the first proc in the order of creation of all that lead
to a circle. -/
theorem reported_leads_to_circle
    (failed : Network.build classes template timing devices = .error (.connectionCycle label)) :
    let environment : Environment P := ⟨classes, timing, devices⟩
    ∃ depth level,
      Begins environment (depthLimit classes) ⟨template, none, [], []⟩ (depth + 1) level ∧
        RefusedFor environment depth level label := by
  let whole : Request P := ⟨template, none, [], []⟩
  have refused : whole.build (buildNested ⟨classes, timing, devices⟩ (depthLimit classes)) =
      .error (.connectionCycle label) := by
    rcases bind_eq_error.mp failed with refused | ⟨_, -, impossible⟩
    · exact refused
    · cases impossible
  exact refusedFor_of_buildNested refused

end

namespace Build

/-- Two constants that read each other, after one that reads the first of them. -/
def tailed : Template :=
  let constant := fun (label source : String) =>
    (⟨label, "number", .empty, [⟨"value", source⟩], none, none, none⟩ : ProcSpec)
  ⟨[constant "tail" "first.out", constant "first" "second.out",
    constant "second" "first.out"], []⟩

/-- A class of constants, and a subnet of those. -/
def boxed : ClassSet Builtin :=
  ⟨constants.classes ++ [⟨"box", [], [], .subnet tailed, none⟩]⟩

/-- The subnet in a network. -/
def around : Template := ⟨[⟨"box", "box", .empty, [], none, none, none⟩], []⟩

end Build

open Build in
/-- A circle inside a subnet is reported for the network around it. -/
theorem circle_in_box_reported :
    let environment : Environment Builtin := ⟨boxed, .standard, []⟩
    Network.build boxed around .standard [] = .error (.connectionCycle "tail") ∧
      ∃ depth level,
        Begins environment (depthLimit boxed) ⟨around, none, [], []⟩ (depth + 1) level ∧
          RefusedFor environment depth level "tail" :=
  ⟨rfl, reported_leads_to_circle rfl⟩

open Build in
/-- The proc that is reported for a circle need not be on it: the tail reads from the circle, and
nothing reads from the tail. -/
theorem tail_reported_for_circle :
    let environment : Environment Builtin := ⟨constants, .standard, []⟩
    Network.build constants tailed .standard [] = .error (.connectionCycle "tail") ∧
      ∃ created store, createProcs environment (buildNested environment 3) none tailed.procs [] =
          .ok (created, store) ∧
        created.map (·.1.label) = ["tail", "first", "second"] ∧
          ∀ position proc spec, created[position]? = some (proc, spec) → proc.label = "tail" →
            ¬ TransGen (AsksFor created) position position := by
  intro environment
  obtain ⟨created, store, procs, made, labels, bound, sources⟩ : ∃ created store procs,
      createProcs environment (buildNested environment 3) none tailed.procs [] =
          .ok (created, store) ∧
        created.map (·.1.label) = ["tail", "first", "second"] ∧
          bindInputs created = .ok procs ∧ connectionSources procs = [[1], [2], [1]] :=
    ⟨_, _, _, rfl, rfl, rfl, rfl⟩
  refine ⟨rfl, created, store, made, labels, fun position proc spec here labelled circle => ?_⟩
  have named : (["tail", "first", "second"] : List String)[position]? = some "tail" := by
    rw [← labels, List.getElem?_map, here, ← labelled]
    rfl
  obtain ⟨below, isTail⟩ := List.getElem?_eq_some_iff.mp named
  have onlyFirst : ∀ position : Fin 3, ["tail", "first", "second"][position] = "tail" →
      position = 0 := by
    decide
  have first : position = 0 := congrArg Fin.val (onlyFirst ⟨position, below⟩ isTail)
  -- on a circle, somebody would read from the tail
  obtain ⟨reader, -, asks⟩ := TransGen.tail'_iff.mp circle
  rw [first] at asks
  have reads := (readsFrom_iff_asksFor bound reader 0).mpr asks
  have below := lt_of_readsFrom reads
  rw [sources] at reads below
  have unread : ∀ reader < 3, 0 ∉ sourcesAt [[1], [2], [1]] reader := by decide
  exact unread reader below reads

end SignalNet
