import SignalNet.Proofs.Network.Replicas

/-!
Contract: a variable that forwards to several voices is read from the first of them.

A variable of a subnet has one target, which names a proc of the inner level. If that proc has
voices, the variable forwards to each of them. Inside a voice there are no further voices, so a
voice contributes one native variable. Several native variables behind one variable are thus one
from each voice of a single proc, in the order of their numbers, and the first is in the voice
with number zero.

Owns: that subnets forward to voices whatever class set they are built from
(`Level.ForwardsToVoices`), and where reads go (`Build.first_voice_of_terminals`).
-/

set_option autoImplicit false

namespace SignalNet

variable {P : Type}

/-- Each variable of each subnet of a level forwards to all voices of one inner proc, whose
class has the variable that is meant. -/
def Level.ForwardsToVoices (level : Level P) : Prop :=
  ∀ head procs order presets targets, .subnet head procs order presets targets ∈ level.procs →
    targets.length = head.description.vars.length ∧ ∀ addresses ∈ targets,
      ∃ label numbers description index, index < description.vars.length ∧
        (∃ spec : ProcSpec, Build.voices description spec head.replica = .ok numbers) ∧
          Proc.Voices procs label numbers description index addresses

namespace Build

/-- A proc is created once, with the number of its level, or it has numbered voices on a level
without a number. -/
theorem voices_cases {description : ClassDescription P} {spec : ProcSpec} {around : Option Nat}
    {numbers : List (Option Nat)} (voiced : voices description spec around = .ok numbers) :
    numbers = [around] ∨ around = none ∧ ∃ further, numbers = some 0 :: further := by
  unfold voices at voiced
  split at voiced
  · exact .inl (Except.ok.inj voiced).symm
  · rename_i count _
    split at voiced
    · cases voiced
    · cases around with
      | some number => cases voiced
      | none =>
          cases voiced
          obtain ⟨more, isMore⟩ : ∃ more, max count 1 = more + 1 := ⟨max count 1 - 1, by omega⟩
          refine .inr ⟨rfl, (List.range more).map fun number => some (number + 1), ?_⟩
          rw [isMore, List.range_succ_eq_map, List.map_cons, List.map_map]
          rfl

variable [Processor P] {environment : Environment P}

theorem voices_of_forwards {inner : LevelBuilder P} {template : Template} {around : Option Nat}
    {exposed : List VarRef} {store after : Store P} {level : Level P}
    (built : buildLevel environment inner template around exposed store = .ok (level, after))
    {spec : ProcSpec} {declaration : Declaration} {addresses : List (Nat × Nat)}
    (forwarded : forwards spec level.procs declaration = .ok addresses) :
    ∃ label numbers description index, index < description.vars.length ∧
      (∃ spec : ProcSpec, voices description spec around = .ok numbers) ∧
        Proc.Voices level.procs label numbers description index addresses := by
  obtain ⟨target, isTarget, each⟩ := forwards_spec forwarded
  obtain ⟨first, isAddress⟩ : ∃ first, first ∈ addresses := by
    rw [forwards, isTarget] at forwarded
    dsimp only at forwarded
    split at forwarded
    · cases forwarded
    · rename_i nonempty
      cases forwarded
      exact List.exists_mem_of_ne_nil _ (by simpa using nonempty)
  obtain ⟨proc, there, labelled, indexed⟩ := each first isAddress
  -- one voice is enough to know the spec, and with it all others
  obtain ⟨created, middle, assembled⟩ := assembled_of_buildLevel built
  obtain ⟨procSpec, listed, sameLabel, known⟩ :=
    assembled.exists_spec (List.mem_of_getElem? there)
  obtain ⟨description, numbers, alsoKnown, voiced, origins⟩ := origins_of_buildLevel built listed
  obtain rfl : proc.description = description := Option.some.inj (known.symm.trans alsoKnown)
  rw [← sameLabel, labelled] at origins
  obtain ⟨found, alsoForwarded, isVoices⟩ :=
    forwards_eq_ok isTarget origins indexed (voices_ne_nil voiced) spec
  obtain rfl := Except.ok.inj (forwarded.symm.trans alsoForwarded)
  have below : first.2 < proc.description.vars.length := by
    simpa [Proc.declaration?] using Proc.declaration?_isSome indexed
  exact ⟨target.proc, numbers, proc.description, first.2, below, ⟨procSpec, voiced⟩, isVoices⟩

/-- Every network inside a built one forwards the variables of its subnets to voices. -/
theorem forwardsToVoices_of_build {classes : ClassSet P} {template : Template} {timing : Timing}
    {devices : List Device} {network : Network P}
    (built : Network.build classes template timing devices = .ok network) {inside : Level P}
    (within : network.level.Within inside) : inside.ForwardsToVoices := by
  refine forall_within_of_buildNested (motive := Level.ForwardsToVoices) ?_
    (buildNested_of_build built).1 within
  intro depth template replica exposed store created middle level after assembled head procs order
    presets targets member
  obtain ⟨spec, below, before, next, -, -, belowBuilt, forwarded⟩ := assembled.subnet_of_mem member
  cases depth with
  | zero => cases belowBuilt
  | succ depth =>
      refine ⟨(mapM_eq_ok.mp forwarded).length_eq.symm, fun addresses isTargets => ?_⟩
      obtain ⟨declaration, -, resolved⟩ := exists_of_mem_mapM forwarded isTargets
      exact voices_of_forwards belowBuilt resolved

end Build

/-! ## Native variables behind a variable -/

/-- A variable that forwards to voices leads where the first voice leads, and then where the
others do. -/
theorem Proc.Voices.exists_first (head : ProcHead P) {procs : List (Proc P)} (order : List Nat)
    (presets : List NetworkPreset) {targets : List (List (Nat × Nat))} {label : String}
    {number : Option Nat} {others : List (Option Nat)} {description : ClassDescription P}
    {var index : Nat} {addresses : List (Nat × Nat)}
    (voices : Proc.Voices procs label (number :: others) description index addresses)
    (listed : targets[var]? = some addresses) :
    let proc := Proc.subnet head procs order presets targets
    ∃ inner ∈ procs, inner.head.replica = number ∧ inner.description = description ∧
      (∀ other terminal, inner.Reaches index other terminal → proc.Reaches var other terminal) ∧
        ∃ further, proc.terminals var = inner.terminals index ++ further ∧
          (others = [] → further = []) := by
  intro proc
  obtain ⟨⟨position, _⟩, more, ⟨rfl, inner, there, isOrigin⟩, remaining, rfl⟩ :=
    List.forall₂_cons_right_iff.mp voices.each
  refine ⟨inner, List.mem_of_getElem? there, congrArg (·.2.1) isOrigin,
    congrArg (·.2.2) isOrigin, fun other terminal onward =>
      .forward listed List.mem_cons_self there onward,
    more.flatMap fun address => terminalsAt procs address.1 address.2, ?_, ?_⟩
  · rw [Proc.terminals, listed, Option.getD_some, List.flatMap_cons,
      terminalsAt_of_getElem? there]
  · rintro rfl
    rw [List.forall₂_nil_right_iff.mp remaining, List.flatMap_nil]

/-- A variable of a subnet leads where a variable of one inner proc leads, or the subnet is in no
voice, and the variable leads into the first voice before it leads into others. -/
theorem Level.ForwardsToVoices.exists_way {head : ProcHead P} {procs : List (Proc P)}
    {order : List Nat} {presets : List NetworkPreset} {targets : List (List (Nat × Nat))}
    {level : Level P}
    (forwards : level.ForwardsToVoices)
    (member : .subnet head procs order presets targets ∈ level.procs) {var : Nat}
    {addresses : List (Nat × Nat)} (listed : targets[var]? = some addresses) :
    let proc := Proc.subnet head procs order presets targets
    ∃ inner ∈ procs, ∃ index < inner.description.vars.length,
      (∀ other terminal, inner.Reaches index other terminal → proc.Reaches var other terminal) ∧
        ∃ further, proc.terminals var = inner.terminals index ++ further ∧
          (inner.head.replica = head.replica ∧ further = [] ∨
            head.replica = none ∧ inner.head.replica = some 0) := by
  intro proc
  obtain ⟨label, numbers, description, index, below, ⟨spec, voiced⟩, voices⟩ :=
    (forwards head procs order presets targets member).2 _ (List.mem_of_getElem? listed)
  rcases Build.voices_cases voiced with rfl | ⟨outside, others, rfl⟩
  · obtain ⟨inner, isInner, numbered, ofClass, onward, further, isTerminals, single⟩ :=
      voices.exists_first head order presets listed
    exact ⟨inner, isInner, index, ofClass ▸ below, onward, further, isTerminals,
      .inl ⟨numbered, single rfl⟩⟩
  · obtain ⟨inner, isInner, numbered, ofClass, onward, further, isTerminals, -⟩ :=
      voices.exists_first head order presets listed
    exact ⟨inner, isInner, index, ofClass ▸ below, onward, further, isTerminals,
      .inr ⟨outside, numbered⟩⟩

/-- What is behind the variables of a proc: at least one native variable, no other if the proc is
in a voice, and of several the first is in a first voice. -/
structure Proc.ReadsFirst (proc : Proc P) : Prop where
  nonempty : ∀ var < proc.description.vars.length, proc.terminals var ≠ []
  single : ∀ number, proc.head.replica = some number → ∀ var first rest,
    proc.terminals var = first :: rest → rest = []
  first : ∀ var first rest, proc.terminals var = first :: rest → rest ≠ [] →
    ∃ head, proc.Reaches var head first ∧ head.replica = some 0

namespace Build

variable [Processor P] {classes : ClassSet P} {template : Template} {timing : Timing}
  {devices : List Device} {network : Network P}

theorem readsFirst_of_build
    (built : Network.build classes template timing devices = .ok network) {inside : Level P}
    (within : network.level.Within inside) {proc : Proc P} (member : proc ∈ inside.procs) :
    proc.ReadsFirst := by
  induction proc generalizing inside with
  | native head slot =>
      refine ⟨fun var _ => ?_, fun _ _ var first rest isTerminals => ?_,
        fun var first rest isTerminals several => ?_⟩
      · rw [Proc.terminals]
        exact List.cons_ne_nil _ _
      · rw [Proc.terminals] at isTerminals
        exact (List.cons.inj isTerminals).2.symm
      · rw [Proc.terminals] at isTerminals
        exact absurd (List.cons.inj isTerminals).2.symm several
  | subnet head procs order presets targets inductionHypothesis =>
      have forwards := forwardsToVoices_of_build built within
      have deeper := within.trans (.inner member rfl (.self ⟨procs, order, presets⟩))
      have sameLength := (forwards head procs order presets targets member).1
      -- without targets there is no terminal
      have isTargeted : ∀ var first rest,
          (Proc.subnet head procs order presets targets).terminals var = first :: rest →
            ∃ addresses, targets[var]? = some addresses := by
        intro var first rest isTerminals
        rw [Proc.terminals] at isTerminals
        cases listed : targets[var]? with
        | none =>
            rw [listed] at isTerminals
            cases isTerminals
        | some addresses => exact ⟨addresses, rfl⟩
      refine ⟨fun var below => ?_, fun number numbered var first rest isTerminals => ?_,
        fun var first rest isTerminals several => ?_⟩
      · have there : var < targets.length := sameLength ▸ below
        obtain ⟨inner, isInner, index, isVariable, -, further, isTerminals, -⟩ :=
          forwards.exists_way member (List.getElem?_eq_getElem there)
        rw [isTerminals]
        exact List.append_ne_nil_of_left_ne_nil
          ((inductionHypothesis inner isInner deeper isInner).nonempty index isVariable) further
      · obtain ⟨addresses, listed⟩ := isTargeted var first rest isTerminals
        obtain ⟨inner, isInner, index, -, -, further, leads, ⟨sameNumber, rfl⟩ | ⟨outside, -⟩⟩ :=
          forwards.exists_way member listed
        · rw [leads, List.append_nil] at isTerminals
          exact (inductionHypothesis inner isInner deeper isInner).single number
            (sameNumber.trans numbered) index first rest isTerminals
        · cases outside.symm.trans numbered
      · obtain ⟨addresses, listed⟩ := isTargeted var first rest isTerminals
        obtain ⟨inner, isInner, index, isVariable, onward, further, leads, way⟩ :=
          forwards.exists_way member listed
        have ofInner := inductionHypothesis inner isInner deeper isInner
        rw [leads] at isTerminals
        rcases way with ⟨-, rfl⟩ | ⟨-, numbered⟩
        · rw [List.append_nil] at isTerminals
          obtain ⟨other, reaches, isFirst⟩ := ofInner.first index first rest isTerminals several
          exact ⟨other, onward _ _ reaches, isFirst⟩
        · obtain ⟨terminal, more, innerTerminals⟩ :=
            List.exists_cons_of_ne_nil (ofInner.nonempty index isVariable)
          rw [innerTerminals, List.cons_append] at isTerminals
          obtain rfl : terminal = first := (List.cons.inj isTerminals).1
          obtain ⟨other, reaches⟩ :=
            Proc.mem_terminals_iff.mp (innerTerminals ▸ List.mem_cons_self)
          exact ⟨other, onward _ _ reaches, reaches.replica_eq
            (fun _ => handsDown_of_build built) deeper isInner numbered⟩

/-- In a built network, a native variable that is read for several ones is in a first voice. -/
theorem first_voice_of_terminals
    (built : Network.build classes template timing devices = .ok network) {inside : Level P}
    (within : network.level.Within inside) {proc : Proc P} (member : proc ∈ inside.procs)
    {var : Nat} {first : Terminal} {rest : List Terminal}
    (isTerminals : proc.terminals var = first :: rest) (several : rest ≠ []) {head : ProcHead P}
    (isLeaf : (head, first.slot) ∈ network.level.leaves) : head.replica = some 0 := by
  obtain ⟨other, reaches, isFirst⟩ :=
    (readsFirst_of_build built within member).first var first rest isTerminals several
  rw [← head_unique_of_build built isLeaf (reaches.mem_leaves within member)]
  exact isFirst

end Build

end SignalNet
