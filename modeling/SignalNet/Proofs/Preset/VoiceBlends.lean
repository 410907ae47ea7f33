import SignalNet.Proofs.Network.FirstVoice
import SignalNet.Proofs.Preset.BestEffort
import SignalNet.Proofs.Preset.Idempotence

/-!
Contract: whose live value a blend goes by.

Where a preset does not mention a channel, it contributes the live value. A variable that
forwards to several voices has one live value for that, the one of the first voice, and the blend
goes to all of them. So what a voice gets depends on the first voice, and where a voice gets
nothing, it keeps its own value. What voices other than the first held makes no difference, neither
to each other nor to anything else.

Owns: what a blend over a live value leaves in a place (`Blend.leftBehind`), that a variable is
blended by its first place (`Blend.followsFirst`), that blends with the same live value go on in
step (`Blend.inStep_applyVariable`), that runs agree where they agreed, apart from places that are
read for themselves only (`Blend.agree_runSteps`), and the law of live values
(`first_voice_decides`).
-/

set_option autoImplicit false

namespace SignalNet

variable {P : Type}

namespace Store

variable {left right leftAfter rightAfter : Store P}

theorem InStep.value?_eq (inStep : InStep left right leftAfter rightAfter)
    {terminals : List Terminal} {ch : Nat}
    (same : left.value? terminals ch = right.value? terminals ch) :
    leftAfter.value? terminals ch = rightAfter.value? terminals ch := by
  cases terminals with
  | nil => rfl
  | cons terminal rest =>
      rw [value?_cons, value?_cons] at same ⊢
      rcases inStep terminal ch with ⟨leftKept, rightKept⟩ | equal
      · rw [leftKept, rightKept, same]
      · exact equal

/-- Two stores hold the same everywhere but in some places. -/
def AgreeOutside (apart : Terminal → Prop) (left right : Store P) : Prop :=
  ∀ terminal, ¬ apart terminal → ∀ ch, left.place? terminal ch = right.place? terminal ch

theorem AgreeOutside.inStep {apart : Terminal → Prop} (agree : AgreeOutside apart left right)
    (inStep : InStep left right leftAfter rightAfter) :
    AgreeOutside apart leftAfter rightAfter := by
  intro terminal outside ch
  rcases inStep terminal ch with ⟨leftKept, rightKept⟩ | equal
  · rw [leftKept, rightKept, agree terminal outside ch]
  · exact equal

/-- Writes to places in which the stores may differ anyway. -/
theorem AgreeOutside.written [Processor P] {apart reached : Terminal → Prop}
    (agree : AgreeOutside apart left right) (inside : ∀ terminal, reached terminal → apart terminal)
    (leftWritten : Written reached left leftAfter)
    (rightWritten : Written reached right rightAfter) :
    AgreeOutside apart leftAfter rightAfter := by
  intro terminal outside ch
  have unreached : ¬ reached terminal := fun isReached => outside (inside terminal isReached)
  rw [leftWritten.place?_unchanged unreached, rightWritten.place?_unchanged unreached,
    agree terminal outside ch]

theorem Alike.written [Processor P] {reached : Terminal → Prop} (alike : left.Alike right)
    (leftWritten : Written reached left leftAfter)
    (rightWritten : Written reached right rightAfter) :
    leftAfter.Alike rightAfter :=
  fun terminal ch => (leftWritten.place?_type terminal ch).trans
    ((alike terminal ch).trans (rightWritten.place?_type terminal ch).symm)

theorem MeetsType.of_alike {terminals : List Terminal} {ch : Nat} {type : ValueType}
    (meets : right.MeetsType terminals ch type) (alike : left.Alike right) :
    left.MeetsType terminals ch type := by
  intro terminal member place there
  have sameType := alike terminal ch
  rw [there, Option.map_some, eq_comm, Option.map_eq_some_iff] at sameType
  obtain ⟨other, alsoThere, same⟩ := sameType
  exact same ▸ meets terminal member other alsoThere

/-- A write to places of one type leaves in each of them the value as one of its type, or what it
held, where that does not convert. -/
theorem place?_write_of_meets [Processor P] (notify : Bool) {store : Store P}
    {terminals : List Terminal} {ch : Nat} {type : ValueType}
    (meets : store.MeetsType terminals ch type) {terminal : Terminal}
    (member : terminal ∈ terminals) (value : Value) :
    (store.write notify ch value terminals).1.place? terminal ch =
      (store.place? terminal ch).map fun held =>
        (value.convert held.type).toOption.getD held := by
  cases present : store.place? terminal ch with
  | none =>
      have alike := (written_write notify ch value terminals store).alike terminal ch
      rwa [present, Option.map_none, Option.map_eq_none_iff] at alike
  | some held =>
      rw [Option.map_some, meets terminal member held present]
      cases converted : value.convert type with
      | error refusal =>
          rw [write_of_refused notify meets converted, present]
          rfl
      | ok into =>
          obtain ⟨wrote, completed⟩ := write_eq_ok_of_converted notify meets converted
          obtain ⟨stored, there, alsoConverted⟩ :=
            place?_write (Prod.ext rfl completed) member present
          rw [meets terminal member held present, converted] at alsoConverted
          rw [there, ← Except.ok.inj alsoConverted]
          rfl

end Store

namespace Blend

open Store

/-! ## One variable -/

/-- Bodies that all mention a channel do not go by its live value. -/
theorem blend_of_literals {label : String} {ch : Nat} {bodies : WeightedBodies}
    (given : ∀ body ∈ bodies, (literal? body.1 label ch).isSome = true) (type : ValueType)
    (live other : Value) : blend type label ch live bodies = blend type label ch other bodies := by
  have same : bodies.mapM (contribution type label ch live) =
      bodies.mapM (contribution type label ch other) := by
    induction bodies with
    | nil => rfl
    | cons body rest inductionHypothesis =>
        obtain ⟨first, later⟩ := List.forall_mem_cons.mp given
        obtain ⟨literal, isGiven⟩ := Option.isSome_iff_exists.mp first
        rw [List.mapM_cons, List.mapM_cons, inductionHypothesis later, contribution, contribution,
          isGiven]
  rw [blend, blend, same]

/-- What a blend over a live value leaves in a place: what the bodies blend to, as a value of the
type there, or what the place held, where they blend to nothing or the blend does not convert. -/
def leftBehind (type : ValueType) (label : String) (ch : Nat) (bodies : WeightedBodies)
    (live held : Value) : Value :=
  match blend type label ch live bodies with
  | .ok (some value) => (value.convert held.type).toOption.getD held
  | _ => held

theorem leftBehind_of_error {type : ValueType} {label : String} {ch : Nat}
    {bodies : WeightedBodies} {live : Value} {fault : ValueError}
    (failed : blend type label ch live bodies = .error fault) (held : Value) :
    leftBehind type label ch bodies live held = held := by
  rw [leftBehind, failed]

theorem leftBehind_of_none {type : ValueType} {label : String} {ch : Nat}
    {bodies : WeightedBodies} {live : Value}
    (nothing : blend type label ch live bodies = .ok none) (held : Value) :
    leftBehind type label ch bodies live held = held := by
  rw [leftBehind, nothing]

theorem leftBehind_of_ok {type : ValueType} {label : String} {ch : Nat}
    {bodies : WeightedBodies} {live value : Value}
    (blended : blend type label ch live bodies = .ok (some value)) (held : Value) :
    leftBehind type label ch bodies live held = (value.convert held.type).toOption.getD held := by
  rw [leftBehind, blended]

theorem leftBehind_of_literals {label : String} {ch : Nat} {bodies : WeightedBodies}
    (given : ∀ body ∈ bodies, (literal? body.1 label ch).isSome = true) (type : ValueType)
    (live other held : Value) :
    leftBehind type label ch bodies live held = leftBehind type label ch bodies other held := by
  rw [leftBehind, leftBehind, blend_of_literals given type live other]

/-- After a blend of a channel of a variable, every place behind it holds what the blend over the
value of the first one leaves in it; if that is not there, all are as they were. -/
def FollowsFirst [Processor P] (proc : Proc P) (var : Nat) (bodies : WeightedBodies)
    (label : String) (store : Store P) (ch : Nat) : Prop :=
  let type := ((proc.declaration? var).map (·.type)).getD .double
  let after := (applyVariable proc bodies label store).1
  ∀ terminal ∈ proc.terminals var, after.place? terminal ch =
    (store.place? terminal ch).map fun held =>
      match store.value? (proc.terminals var) ch with
      | none => held
      | some live => leftBehind type label ch bodies live held

/-- A field leaves in each place behind it what its blend leaves there, if these are of one type. -/
theorem Field.place?_apply_behind [Processor P] {field : Field} {store : Store P}
    {type : ValueType} (meets : store.MeetsType field.terminals field.channel type)
    {terminal : Terminal} (member : terminal ∈ field.terminals) :
    (field.apply store).1.place? terminal field.channel =
      (store.place? terminal field.channel).map
        (leftBehind field.type field.var field.channel field.bodies (field.live store)) := by
  cases blended : field.blended store with
  | error fault =>
      rw [apply_eq, blended, funext (leftBehind_of_error blended), Option.map_id']
  | ok value? =>
      cases value? with
      | none => rw [apply_eq, blended, funext (leftBehind_of_none blended), Option.map_id']
      | some value =>
          rw [apply_fst_of_blended blended, funext (leftBehind_of_ok blended)]
          exact place?_write_of_meets true meets member value

/-- Two stores have one live value for a channel, or no body goes by it. -/
def OneLiveValue (left right : Store P) (terminals : List Terminal) (bodies : WeightedBodies)
    (label : String) (ch : Nat) : Prop :=
  left.value? terminals ch = right.value? terminals ch ∨
    ∀ body ∈ bodies, (literal? body.1 label ch).isSome = true

variable [Processor P] {left right : Store P} {bodies : WeightedBodies} {label : String}

omit [Processor P] in
theorem OneLiveValue.blend_eq {terminals : List Terminal} {ch : Nat}
    (one : OneLiveValue left right terminals bodies label ch) (type : ValueType) :
    blend type label ch ((left.value? terminals ch).getD (Value.zero type)) bodies =
      blend type label ch ((right.value? terminals ch).getD (Value.zero type)) bodies := by
  rcases one with same | given
  · rw [same]
  · exact blend_of_literals given type _ _

theorem inStep_applyChannels {terminals : List Terminal} (channels : List Nat)
    (alike : left.Alike right)
    (one : ∀ ch, OneLiveValue left right terminals bodies label ch) (type : ValueType) :
    (applyChannels type label terminals bodies channels left).2 =
        (applyChannels type label terminals bodies channels right).2 ∧
      InStep left right (applyChannels type label terminals bodies channels left).1
        (applyChannels type label terminals bodies channels right).1 := by
  induction channels generalizing left right with
  | nil => exact ⟨rfl, .refl left right⟩
  | cons ch rest inductionHypothesis =>
      obtain ⟨sameFault, first⟩ := inStep_applyChannel alike ((one ch).blend_eq type)
      obtain ⟨sameFaults, further⟩ := inductionHypothesis (first.alike alike)
        fun other => (one other).imp_left first.value?_eq
      simp only [applyChannels, sameFault, sameFaults]
      exact ⟨trivial, first.trans further⟩

theorem place?_applyChannels_of_not_mem {type : ValueType} {terminals : List Terminal}
    {channels : List Nat} {ch : Nat} (others : ch ∉ channels) (store : Store P)
    (terminal : Terminal) :
    (applyChannels type label terminals bodies channels store).1.place? terminal ch =
      store.place? terminal ch := by
  induction channels generalizing store with
  | nil => rfl
  | cons first rest inductionHypothesis =>
      rw [applyChannels]
      exact (inductionHypothesis (List.not_mem_of_not_mem_cons others) _).trans
        (Field.place?_apply_of_ne ⟨"", label, type, terminals, bodies, first⟩ store terminal
          (List.ne_of_not_mem_cons others))

/-- Each channel is blended as if it were the only one. -/
theorem place?_applyChannels {type : ValueType} {terminals : List Terminal} {channels : List Nat}
    (distinct : channels.Nodup) {ch : Nat} (listed : ch ∈ channels) (store : Store P)
    (terminal : Terminal) :
    (applyChannels type label terminals bodies channels store).1.place? terminal ch =
      (applyChannel type label terminals bodies store ch).1.place? terminal ch := by
  induction channels generalizing store with
  | nil => exact absurd listed List.not_mem_nil
  | cons first rest inductionHypothesis =>
      obtain ⟨once, distinctRest⟩ := List.nodup_cons.mp distinct
      rw [applyChannels]
      by_cases same : ch = first
      · subst same
        exact place?_applyChannels_of_not_mem once _ terminal
      · refine (inductionHypothesis distinctRest (List.mem_of_ne_of_mem same listed) _).trans ?_
        -- the channel that was blended first is another one, and leaves the live value alone
        let field : Field := ⟨"", label, type, terminals, bodies, first⟩
        have alike : (field.apply store).1.Alike store :=
          (written_applyChannel type label terminals bodies store first).alike
        have one : OneLiveValue (field.apply store).1 store terminals bodies label ch :=
          .inl (field.value?_apply_of_ne store terminals same)
        rcases (inStep_applyChannel alike (one.blend_eq type)).2 terminal ch with
          ⟨keptAfter, keptBefore⟩ | equal
        · exact keptAfter.trans
            ((field.place?_apply_of_ne store terminal same).trans keptBefore.symm)
        · exact equal

/-- A blend of a variable goes by the live value of the first place behind it, if the places are of
one type. -/
theorem followsFirst {proc : Proc P} {var : Nat} (indexed : proc.variableIndex? label = some var)
    (accepted : proc.description.rejects label = false) {store : Store P} {ch : Nat}
    {type : ValueType} (meets : store.MeetsType (proc.terminals var) ch type) :
    FollowsFirst proc var bodies label store ch := by
  intro terminal member
  rw [Proc.rejects_of_some indexed] at accepted
  let declared := ((proc.declaration? var).map (·.type)).getD .double
  let count := store.channelCount (proc.terminals var)
  have isAfter : (applyVariable proc bodies label store).1 =
      (applyChannels declared label (proc.terminals var) bodies (List.range count) store).1 := by
    simp only [applyVariable, indexed, accepted]
    rfl
  rw [isAfter]
  cases found : store.value? (proc.terminals var) ch with
  | none =>
      have beyond : ch ∉ List.range count := by
        rw [List.mem_range, lt_channelCount_iff, found]
        nofun
      simp only [place?_applyChannels_of_not_mem beyond, Option.map_id']
  | some live =>
      have below : ch ∈ List.range count := by
        rw [List.mem_range, lt_channelCount_iff, found]
        rfl
      rw [place?_applyChannels List.nodup_range below]
      let field : Field := ⟨"", label, declared, proc.terminals var, bodies, ch⟩
      have isLive : field.live store = live := by
        rw [Field.live, found]
        rfl
      exact isLive ▸ field.place?_apply_behind meets member

/-- A variable that has the same live values, where bodies go by them, is blended in step. -/
theorem inStep_applyVariable (alike : left.Alike right) {proc : Proc P}
    (one : ∀ var, proc.variableIndex? label = some var → ∀ ch,
      OneLiveValue left right (proc.terminals var) bodies label ch) :
    (applyVariable proc bodies label left).2 = (applyVariable proc bodies label right).2 ∧
      InStep left right (applyVariable proc bodies label left).1
        (applyVariable proc bodies label right).1 := by
  unfold applyVariable
  cases indexed : proc.variableIndex? label with
  | none => exact ⟨rfl, .refl left right⟩
  | some var =>
      dsimp only
      split
      · exact ⟨rfl, .refl left right⟩
      · rw [alike.channelCount_eq]
        obtain ⟨sameFaults, inStep⟩ := inStep_applyChannels
          (List.range (right.channelCount (proc.terminals var))) alike (one var indexed)
          (((proc.declaration? var).map (·.type)).getD .double)
        simp only [sameFaults]
        exact ⟨trivial, inStep⟩

/-! ## Whole applications -/

/-- The places of a field are read from one in which stores agree, or all of them may differ. -/
def Field.Apart (apart : Terminal → Prop) (field : Field) : Prop :=
  ∀ first rest, field.terminals = first :: rest → apart first → ∀ terminal ∈ rest, apart terminal

variable {apart : Terminal → Prop}

theorem Field.agree_apply {field : Field} (isApart : field.Apart apart) (alike : left.Alike right)
    (agree : AgreeOutside apart left right) :
    (field.apply left).1.Alike (field.apply right).1 ∧
      AgreeOutside apart (field.apply left).1 (field.apply right).1 := by
  have written := fun store : Store P =>
    written_applyChannel field.type field.var field.terminals field.bodies store field.channel
  by_cases reads : ∃ first rest, field.terminals = first :: rest ∧ apart first
  · -- the live values may differ, but the blends end in places that may differ as well
    obtain ⟨first, rest, isTerminals, isFirst⟩ := reads
    have inside : ∀ terminal, terminal ∈ field.terminals → apart terminal := by
      rw [isTerminals]
      exact List.forall_mem_cons.mpr ⟨isFirst, isApart first rest isTerminals isFirst⟩
    exact ⟨alike.written (written left) (written right),
      agree.written inside (written left) (written right)⟩
  · have one : OneLiveValue left right field.terminals field.bodies field.var field.channel := by
      left
      cases isTerminals : field.terminals with
      | nil => rfl
      | cons first rest =>
          rw [value?_cons, value?_cons]
          exact agree first (fun isFirst => reads ⟨first, rest, isTerminals, isFirst⟩) _
    obtain ⟨-, inStep⟩ := inStep_applyChannel alike (one.blend_eq field.type)
    exact ⟨inStep.alike alike, agree.inStep inStep⟩

/-- A run of steps lets two stores agree where they did. -/
theorem agree_runSteps {steps : List Step}
    (isApart : ∀ field, .blend field ∈ steps → field.Apart apart) (alike : left.Alike right)
    (agree : AgreeOutside apart left right) :
    AgreeOutside apart (runSteps steps left).1 (runSteps steps right).1 := by
  induction steps generalizing left right with
  | nil => exact agree
  | cons step rest inductionHypothesis =>
      have later := fun field (member : .blend field ∈ rest) =>
        isApart field (List.mem_cons_of_mem _ member)
      cases step with
      | report failure => exact inductionHypothesis later alike agree
      | blend field =>
          obtain ⟨stillAlike, stillAgree⟩ :=
            Field.agree_apply (isApart field List.mem_cons_self) alike agree
          exact inductionHypothesis later stillAlike stillAgree

omit [Processor P] in
theorem steps_of_alike (alike : left.Alike right) (weights : Weights) (replica : Option Nat)
    (sites : List (Site P)) :
    steps weights replica sites left = steps weights replica sites right := by
  unfold steps siteSteps variableSteps
  simp only [alike.channelCount_eq]

theorem agree_applySites {weights : Weights} {replica : Option Nat} {sites : List (Site P)}
    (isApart : ∀ field, .blend field ∈ steps weights replica sites right → field.Apart apart)
    (alike : left.Alike right) (agree : AgreeOutside apart left right) :
    AgreeOutside apart (applySites weights replica sites left).1
      (applySites weights replica sites right).1 := by
  rw [applySites_eq_runSteps rfl, applySites_eq_runSteps rfl, steps_of_alike alike]
  exact agree_runSteps isApart alike agree

end Blend

section

variable [Processor P] {classes : ClassSet P} {template : Template} {timing : Timing}
  {devices : List Device} {network : Network P}

/-- In a built network, fields that are read from voices other than the first are for these places
only. -/
theorem Build.apart_of_mem_steps
    (built : Network.build classes template timing devices = .ok network)
    {apart : Terminal → Prop}
    (isLater : ∀ terminal, apart terminal → ∃ head number,
      (head, terminal.slot) ∈ network.level.leaves ∧ head.replica = some (number + 1))
    {weights : Weights} {replica : Option Nat} {store : Store P} {field : Blend.Field}
    (isField : .blend field ∈ Blend.steps weights replica network.level.sites store) :
    field.Apart apart := by
  obtain ⟨site, listed, -, label, -, var, -, -, ch, -, rfl⟩ := Blend.blend_mem_steps.mp isField
  obtain ⟨inside, within, member, -⟩ := Level.exists_within_of_mem_sites listed
  intro first rest isTerminals isFirst terminal inRest
  obtain ⟨head, number, isLeaf, numbered⟩ := isLater first isFirst
  have isZero := Build.first_voice_of_terminals built within member isTerminals
    (List.ne_nil_of_mem inRest) isLeaf
  cases numbered.symm.trans isZero

/-- Over native classes that keep banks typed, as all built-in ones do, a blend of a variable goes
by the presets and by the live value of the first place behind it, in every state of a built network
and in the midst of an application: each place behind the variable takes the blend over that value,
or keeps what it held. It keeps it where no body mentions the channel or the blend fails, and where
all bodies mention the channel, the live value makes no difference.

From two states with the same places, one variable of any proc is blended in step, with the same
failures, if for every channel the first place behind it holds the same value in both, or all bodies
mention the channel: each place is left alone from both, or holds the same value afterwards. In a
built network, an application of weighted presets, to all procs or to one voice, leaves the same
everywhere from two states that hold the same everywhere but in voices other than the first; only
these voices may still differ. -/
theorem first_voice_decides
    (built : Network.build classes template timing devices = .ok network) :
    (∀ [TypedProcessor P], classes.Lawful → ∀ operations inside, network.level.Within inside →
        ∀ proc ∈ inside.procs, ∀ bodies label var, proc.variableIndex? label = some var →
          proc.description.rejects label = false →
            ∀ store : Store P, store.Alike (network.performAll operations).store →
              ∀ ch, Blend.FollowsFirst proc var bodies label store ch) ∧
      (∀ type label ch bodies live held,
        let left := Blend.leftBehind type label ch bodies
        ((∀ body ∈ bodies, Blend.literal? body.1 label ch = none) → left live held = held) ∧
          (∀ fault, Blend.blend type label ch live bodies = .error fault → left live held = held) ∧
          ((∀ body ∈ bodies, (Blend.literal? body.1 label ch).isSome = true) →
            ∀ other, left live held = left other held)) ∧
      (∀ (proc : Proc P) (bodies : WeightedBodies) (label : String) (left right : Store P),
        left.Alike right →
          (∀ var, proc.variableIndex? label = some var → ∀ ch,
            Blend.OneLiveValue left right (proc.terminals var) bodies label ch) →
          let leftRun := Blend.applyVariable proc bodies label left
          let rightRun := Blend.applyVariable proc bodies label right
          leftRun.2 = rightRun.2 ∧ Store.InStep left right leftRun.1 rightRun.1) ∧
      ∀ (left right : Store P) (apart : Terminal → Prop), left.Alike right →
        (∀ terminal, apart terminal → ∃ head number,
          (head, terminal.slot) ∈ network.level.leaves ∧ head.replica = some (number + 1)) →
        Store.AgreeOutside apart left right → ∀ weights replica name,
          let run := fun store : Store P =>
            Network.applyWeights { network with store } weights replica name
          Store.AgreeOutside apart (run left).1.store (run right).1.store := by
  refine ⟨?_, fun type label ch bodies live held => ⟨fun unmentioned => ?_, fun fault failed => ?_,
      fun given other => Blend.leftBehind_of_literals given type live other held⟩,
    fun proc bodies label left right alike one => Blend.inStep_applyVariable alike one, ?_⟩
  · intro _ lawful operations inside within proc member bodies label var indexed accepted store
      alike ch
    obtain ⟨type, meets⟩ :=
      Network.exists_meetsType_within lawful built operations within member var ch
    exact Blend.followsFirst indexed accepted (meets.of_alike alike)
  · exact Blend.leftBehind_of_none (Blend.blend_of_unmentioned unmentioned type live) held
  · exact Blend.leftBehind_of_error failed held
  · intro left right apart alike isLater agree weights replica name run
    have sameLabels : ∀ store : Store P, Network.hasPreset { network with store } =
        network.hasPreset := fun store => rfl
    dsimp only [run]
    unfold Network.applyWeights
    simp only [sameLabels]
    split
    · exact agree
    · exact Blend.agree_applySites
        (fun field isField => Build.apart_of_mem_steps built isLater isField) alike agree

end

namespace Choir

/-- A subnet around a constant, with presets for its level. -/
def voice : ClassDescription Builtin :=
  ⟨"voice", [⟨"level", "", some .double, .empty, none, true, some ⟨"inner", "value"⟩⟩],
    [⟨"two", ⟨[("level", .float 2)]⟩⟩, ⟨"four", ⟨[("level", .float 4)]⟩⟩],
    .subnet ⟨[⟨"inner", "number", .empty, [], none, none, none⟩], []⟩, none⟩

/-- Two voices with one level. -/
def choir : ClassDescription Builtin :=
  ⟨"choir", [⟨"level", "", some .double, .empty, none, true, some ⟨"voice", "level"⟩⟩], [],
    .subnet ⟨[⟨"voice", "voice", .empty, [], none, some 2, none⟩], []⟩, none⟩

def classes : ClassSet Builtin := ⟨Build.constants.classes ++ [voice, choir]⟩

/-- A preset for the level of a choir, and one that leaves it live. -/
def presets : List NetworkPreset :=
  [⟨"loud", [("choir", .inline ⟨[("level", .float 1)]⟩)]⟩, ⟨"live", []⟩]

def template : Template := ⟨[⟨"choir", "choir", .empty, [], none, none, none⟩], presets⟩

def voiceProc (number : Nat) : Proc Builtin :=
  let constant := Build.constants.classes.head (List.cons_ne_nil _ _)
  .subnet ⟨"voice", some number, voice, [], none⟩
    [.native ⟨"inner", some number, constant, [], none⟩ number] [0] [] [[(0, 0)]]

def choirProc : Proc Builtin :=
  .subnet ⟨"choir", none, choir, [], none⟩ [voiceProc 0, voiceProc 1] [0, 1] [] [[(0, 0), (1, 0)]]

/-- What is built from the template. -/
def network : Network Builtin :=
  let cell : Cell Builtin := ⟨.number 0 1, ⟨[⟨"value", .double, .empty, [.double 0]⟩,
    ⟨"out", .double, .empty, [.double 0]⟩]⟩⟩
  ⟨"root", ⟨[choirProc], [0], presets⟩, [cell, cell], [], .standard, 0⟩

theorem built : Network.build classes template .standard [] = .ok network := rfl

theorem lawful : classes.Lawful := by
  intro label description native known kind
  have listed := List.mem_of_find?_eq_some known
  simp only [classes, Build.constants, List.cons_append, List.nil_append, List.mem_cons,
    List.not_mem_nil, or_false] at listed
  rcases listed with rfl | rfl | rfl <;> cases kind
  exact Builtin.typed_numberClass

/-- The network with one voice set to a preset of its class. -/
def withVoice (preset : String) (number : Nat) : Network Builtin :=
  network.perform (.preset preset (some number))

theorem alike_withVoice (preset : String) (number : Nat) :
    (withVoice preset number).store.Alike network.store :=
  (Blend.written_applyWeights network [(preset, 1)] (some number) preset).alike

end Choir

/-- Halfway between a preset for the level of a choir and the live values, the second voice follows
the first one: it holds different values after two states that differ in the first voice only. -/
theorem second_voice_follows_first :
    Network.build Choir.classes Choir.template .standard [] = .ok Choir.network ∧
      Choir.choirProc.terminals 0 = [⟨0, 0⟩, ⟨1, 0⟩] ∧
      let left := (Choir.withVoice "four" 1).perform (.preset "two" (some 0))
      let right := Choir.withVoice "four" 1
      let after := fun reached : Network Builtin =>
        (reached.applyDualPreset "loud" "live" 0.5 none).1.store
      Store.AgreeOutside (·.slot = 0) left.store right.store ∧
        left.store.place? ⟨1, 0⟩ 0 = some (.double 4) ∧
          (after left).place? ⟨1, 0⟩ 0 = some (.double 1.5) ∧
            (after right).place? ⟨1, 0⟩ 0 = some (.double 0.5) := by
  refine ⟨Choir.built, rfl, ?_, by decide +kernel, by decide +kernel, by decide +kernel⟩
  rintro ⟨slot, var⟩ notFirst ch
  rcases slot with _ | _ | slot
  · exact absurd rfl notFirst
  · rfl
  · rfl

/-- The second voice is set to four. Halfway between a preset for the level of the choir and the
live values, it follows the first one, and only where nothing is asked of the level, it keeps what
it has. The first voice does not notice, and the second one is the same as without, if the level is
blended on its own. -/
theorem choir_agrees :
    Network.build Choir.classes Choir.template .standard [] = .ok Choir.network ∧
      let left := (Choir.withVoice "four" 1).store
      let right := Choir.network.store
      let loud : Option Assignments := some ⟨[("level", .float 1)]⟩
      let blended := fun bodies store =>
        (Blend.applyVariable Choir.choirProc bodies "level" store).1
      let run := fun store : Store Builtin => Network.applyWeights { Choir.network with store }
        [("loud", 0.5), ("live", 0.5)] none "loud|live"
      left.place? ⟨1, 0⟩ 0 = some (.double 4) ∧ right.place? ⟨1, 0⟩ 0 = some (.double 0) ∧
        (blended [(loud, 0.5), (none, 0.5)] left).place? ⟨1, 0⟩ 0 = some (.double 0.5) ∧
          (blended [(none, 1)] left).place? ⟨1, 0⟩ 0 = some (.double 4) ∧
            Store.InStep left right (blended [(loud, 0.5), (none, 0.5)] left)
              (blended [(loud, 0.5), (none, 0.5)] right) ∧
              Store.AgreeOutside (·.slot = 1) (run left).1.store (run right).1.store := by
  have agree : Store.AgreeOutside (·.slot = 1) (Choir.withVoice "four" 1).store
      Choir.network.store := by
    rintro ⟨slot, var⟩ notSecond ch
    rcases slot with _ | _ | slot
    · rfl
    · exact absurd rfl notSecond
    · rfl
  obtain ⟨follows, left, single, whole⟩ := first_voice_decides Choir.built
  have behind (bodies : WeightedBodies) : Blend.FollowsFirst Choir.choirProc 0 bodies "level"
      (Choir.withVoice "four" 1).store 0 :=
    follows Choir.lawful [.preset "four" (some 1)] _ (.self _) Choir.choirProc
      (List.mem_singleton_self _) bodies "level" 0 rfl rfl _ (fun _ _ => rfl) 0
  have second : (⟨1, 0⟩ : Terminal) ∈ Choir.choirProc.terminals 0 := by decide
  have held : (Choir.withVoice "four" 1).store.place? ⟨1, 0⟩ 0 = some (.double 4) := by
    decide +kernel
  have first : (Choir.withVoice "four" 1).store.value? (Choir.choirProc.terminals 0) 0 =
      some (.double 0) := by
    decide +kernel
  refine ⟨Choir.built, held, by decide +kernel, ?_, ?_, ?_, ?_⟩
  · rw [behind _ _ second, held, first]
    decide +kernel
  · rw [behind _ _ second, held, first, Option.map_some]
    exact congrArg some ((left _ _ _ _ _ _).1 (List.forall_mem_singleton.mpr rfl))
  · refine (single _ _ _ _ _ (Choir.alike_withVoice "four" 1) fun var indexed ch => .inl ?_).2
    obtain rfl : 0 = var := Option.some.inj indexed
    exact agree ⟨0, 0⟩ (by decide) ch
  · refine whole _ _ _ (Choir.alike_withVoice "four" 1) ?_ agree _ _ _
    rintro ⟨slot, var⟩ rfl
    exact ⟨_, 0, List.mem_of_getElem? (i := 1) rfl, rfl⟩

end SignalNet
