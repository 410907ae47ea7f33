import SignalNet.Proofs.Network.Overlay
import SignalNet.Proofs.Network.Precedence

/-!
Contract: what the class of a native proc leaves is there when the network is built.

A class makes its procs once, and what it leaves in a bank is followed outwards through building:
further procs go behind it, subnets around it fill variables, and construction presets are applied
level by level. Audio survives all of this, and so does every variable that nothing on the way
fills or mentions.

Owns: what some proc on a level or inside does (`Level.Somewhere`), what has survived on a level
(`Build.Survives`), and that everything has (`survives_of_buildNested`).
-/

set_option autoImplicit false

namespace SignalNet

variable {P : Type}

/-- Some proc on a level or inside does something, with the spec that it comes from. -/
def Level.Somewhere (does : Proc P → ProcSpec → Prop) (template : Template) (around : Option Nat)
    (level : Level P) : Prop :=
  ∃ own number inside, Unfolds template around level own number inside ∧
    ∃ proc ∈ inside.procs, ∃ spec, own.proc? proc.label = some spec ∧ does proc spec

namespace Level.Somewhere

variable {does : Proc P → ProcSpec → Prop} {template own : Template} {around : Option Nat}
  {level below : Level P} {proc : Proc P}

theorem here (member : proc ∈ level.procs) {spec : ProcSpec}
    (isSpec : template.proc? proc.label = some spec) (done : does proc spec) :
    level.Somewhere does template around :=
  ⟨template, around, level, .self _ _ _, proc, member, spec, isSpec, done⟩

theorem inner (member : proc ∈ level.procs) (isSubnet : proc.inner? = some below)
    (isOwn : proc.description.kind = .subnet own)
    (deeper : below.Somewhere does own proc.head.replica) :
    level.Somewhere does template around := by
  obtain ⟨last, number, inside, unfolds, other, isOther, done⟩ := deeper
  exact ⟨last, number, inside, .inner member isSubnet isOwn unfolds, other, isOther, done⟩

end Level.Somewhere

/-- A proc fills a native variable when it is made, or its construction preset mentions it. -/
def Proc.Covers (proc : Proc P) (spec : ProcSpec) (terminal : Terminal) : Prop :=
  proc.Fills spec terminal ∨ proc.Mentions spec terminal

theorem Proc.Fills.withInputs {proc : Proc P} {spec : ProcSpec} {terminal : Terminal}
    (fills : proc.Fills spec terminal) {inputs : List Connection} :
    (proc.withInputs inputs).Fills spec terminal := by
  simpa only [Fills, description_withInputs, terminals_withInputs, declaration?_withInputs,
    variableIndex?] using fills

namespace Build

variable {environment : Environment P}

/-- A store still holds what the class of a native proc left: its audio, and all of it outside of
some variables. -/
def Survives (environment : Environment P) (own : Template) (head : ProcHead P) (slot : Nat)
    (covered : Terminal → Prop) (store : Store P) : Prop :=
  ∃ spec given left, own.proc? head.label = some spec ∧
    Constructed environment spec head.description given left ∧
      (∀ var ch block, left.get? var ch = some (.audio block) →
        store.place? ⟨slot, var⟩ ch = some (.audio block)) ∧
      ∀ var, ¬ covered ⟨slot, var⟩ → ∀ ch, store.place? ⟨slot, var⟩ ch = left.get? var ch

section

variable {own : Template} {head : ProcHead P} {slot : Nat} {covered reached wider : Terminal → Prop}
  {store after : Store P}

theorem Survives.overlaid (survives : Survives environment own head slot covered store)
    (overlaid : Store.Overlaid reached store after)
    (included : ∀ terminal, covered terminal ∨ reached terminal → wider terminal) :
    Survives environment own head slot wider after := by
  obtain ⟨spec, given, left, isSpec, constructed, audio, others⟩ := survives
  refine ⟨spec, given, left, isSpec, constructed, ?_, ?_⟩
  · exact fun var ch block isLeft => overlaid.audio _ ch block (audio var ch block isLeft)
  · intro var uncovered ch
    rw [overlaid.outside _ (fun isReached => uncovered (included _ (.inr isReached))),
      others var fun isCovered => uncovered (included _ (.inl isCovered))]

theorem Survives.congr (survives : Survives environment own head slot covered store)
    (same : after[slot]? = store[slot]?) : Survives environment own head slot covered after := by
  obtain ⟨spec, given, left, isSpec, constructed, audio, others⟩ := survives
  refine ⟨spec, given, left, isSpec, constructed, ?_, ?_⟩
  · exact fun var ch block isLeft =>
      (Store.place?_congr same ch).trans (audio var ch block isLeft)
  · exact fun var uncovered ch => (Store.place?_congr same ch).trans (others var uncovered ch)

end

variable [Processor P] {spec : ProcSpec} {description : ClassDescription P} {number : Option Nat}
  {store after : Store P}

/-- A new native proc holds what its class left. -/
theorem survives_of_createNative {inner : LevelBuilder P} {own : Template}
    (isSpec : own.proc? spec.label = some spec) {head : ProcHead P} {slot : Nat}
    (made : createProc environment inner spec description number store =
      .ok (.native head slot, after)) :
    Survives environment own head slot (fun _ => False) after := by
  obtain ⟨given, left, labelled, rfl, constructed, held⟩ := constructed_of_createProc made
  exact ⟨spec, given, left, labelled ▸ isSpec, constructed,
    fun var ch block isLeft => (held var ch).trans isLeft, fun var _ ch => held var ch⟩

section

variable {depth : Nat} {template own : Template} {around : Option Nat} {exposed : List VarRef}
  {middle : Store P} {created : List (Proc P × ProcSpec)} {level : Level P} {head : ProcHead P}
  {slot : Nat}

/-- What survives in a new proc survives on its level. -/
theorem survives_of_created (assembled : Assembled environment (buildNested environment depth)
      template around exposed store created middle level after) {made : Proc P}
    (wasCreated : (made, spec) ∈ created) (inside : slot ∈ made.slots)
    (covered : Terminal → Prop)
    (survives : ∀ description number before next,
      createProc environment (buildNested environment depth) spec description number before =
          .ok (made, next) →
        Survives environment own head slot covered next)
    (included : ∀ terminal, covered terminal →
      level.Somewhere (·.Covers · terminal) template around) :
    Survives environment own head slot
      (fun terminal => level.Somewhere (·.Covers · terminal) template around) after := by
  obtain ⟨description, numbers, number, before, next, -, -, -, -, creation, kept⟩ :=
    exists_voice_of_created (relocates_buildNested environment depth) assembled.made wasCreated
  have numbered := numbered_createProc (numbersCells_buildNested environment depth) creation
  -- procs that are made later have their cells behind those of this one
  obtain ⟨further, rfl⟩ := kept
  have inMiddle : Survives environment own head slot covered (next ++ further) :=
    (survives description number before next creation).congr
      (List.getElem?_append_left (numbered.lt inside))
  refine inMiddle.overlaid (overlaid_applyConstructionPresets assembled.preset) ?_
  rintro terminal (isCovered | ⟨⟨proc, other⟩, isItem, mentions⟩)
  · exact included terminal isCovered
  · obtain ⟨otherMade, inputs, alsoCreated, rfl⟩ :=
      exists_created_of_mem_zip assembled.bound isItem
    exact .here (List.of_mem_zip isItem).1 (assembled.proc?_of_created alsoCreated inputs)
      (.inr mentions)

theorem survives_of_native (assembled : Assembled environment (buildNested environment depth)
      template around exposed store created middle level after)
    (member : .native head slot ∈ level.procs) :
    Survives environment template head slot
      (fun terminal => level.Somewhere (·.Covers · terminal) template around) after := by
  obtain ⟨⟨made, spec⟩, wasCreated, inputs, isMade⟩ :=
    exists_created_of_bindInputs assembled.bound member
  obtain ⟨-, -, -, -, listed, -, -⟩ := assembled.made.of_mem wasCreated
  have isSpec := proc?_of_mem (nodup_of_duplicate? assembled.distinct).1 listed
  cases made with
  | subnet => cases isMade
  | native made =>
      cases isMade
      have survives : Survives environment template made slot
          (fun terminal => level.Somewhere (·.Covers · terminal) template around) after :=
        survives_of_created assembled wasCreated (List.mem_singleton_self _) (fun _ => False)
          (fun _ _ _ _ creation => survives_of_createNative isSpec creation) (fun _ => False.elim)
      exact survives

/-- What survives on the level in a subnet survives on the level of the subnet. -/
theorem survives_of_subnet (assembled : Assembled environment (buildNested environment depth)
      template around exposed store created middle level after) {proc : Proc P}
    (isProc : proc ∈ level.procs) {below inside : Level P} (isSubnet : proc.inner? = some below)
    {inner : Template} (isInner : proc.description.kind = .subnet inner)
    (within : below.Within inside) (member : .native head slot ∈ inside.procs)
    (survives : ∀ exposed before middle, buildNested environment depth inner proc.head.replica
        exposed before = .ok (below, middle) →
      Survives environment own head slot
        (fun terminal => below.Somewhere (·.Covers · terminal) inner proc.head.replica) middle) :
    Survives environment own head slot
      (fun terminal => level.Somewhere (·.Covers · terminal) template around) after := by
  obtain ⟨⟨made, spec⟩, wasCreated, inputs, rfl⟩ :=
    exists_created_of_bindInputs assembled.bound isProc
  have sameNumber : (made.withInputs inputs).head.replica = made.head.replica :=
    congrArg (·.2.1) (made.origin_withInputs inputs)
  have madeSubnet : made.inner? = some below := by rwa [Proc.inner?_withInputs] at isSubnet
  have isInside : slot ∈ made.slots :=
    Proc.slot_mem_of_within madeSubnet within member (List.mem_singleton_self slot)
  refine survives_of_created assembled wasCreated isInside
    (fun terminal =>
      below.Somewhere (·.Covers · terminal) inner (made.withInputs inputs).head.replica ∨
        made.Fills spec terminal) ?_ ?_
  · intro description number before next creation
    have origin := origin_of_createProc creation
    obtain rfl : made.head.replica = number := congrArg (·.2.1) origin
    obtain rfl : made.description = description := congrArg (·.2.2) origin
    obtain ⟨template, last, targets, device, kind, levelBuilt, -, -, literals⟩ :=
      level_of_createProc creation madeSubnet
    rw [Proc.description_withInputs] at isInner
    cases isInner.symm.trans kind
    rw [← sameNumber] at levelBuilt
    refine (survives _ before last levelBuilt).overlaid (overlaid_writeSubnet ?_ literals)
      fun terminal => id
    rw [ClassDescription.isSubnet, ClassDescription.template?, kind]
    rfl
  · rintro terminal (deeper | fills)
    · exact .inner isProc isSubnet isInner deeper
    · exact .here isProc (assembled.proc?_of_created wasCreated inputs) (.inl fills.withInputs)

end

/-- What the class of a native proc left survives at any depth of a built level. -/
theorem survives_of_buildNested (depth : Nat) :
    ∀ template around exposed store level after,
      buildNested environment depth template around exposed store = .ok (level, after) →
        ∀ own number inside, Level.Unfolds template around level own number inside →
          ∀ head slot, .native head slot ∈ inside.procs →
            Survives environment own head slot
              (fun terminal => level.Somewhere (·.Covers · terminal) template around) after := by
  induction depth with
  | zero =>
      intro template around exposed store level after built
      cases built
  | succ depth inductionHypothesis =>
      intro template around exposed store level after built own number inside unfolds head slot
        member
      obtain ⟨created, middle, assembled⟩ := assembled_of_buildLevel built
      cases unfolds with
      | self => exact survives_of_native assembled member
      | inner isProc isSubnet isInner deeper =>
          exact survives_of_subnet assembled isProc isSubnet isInner deeper.within member
            fun exposed before middle levelBuilt =>
              inductionHypothesis _ _ _ _ _ _ levelBuilt _ _ _ deeper _ _ member

end Build

end SignalNet
