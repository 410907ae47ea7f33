import SignalNet.Proofs.Native.Rows
import SignalNet.Proofs.Network.Checked
import SignalNet.Proofs.Network.TypeSoundness

/-!
Contract: built networks are well formed for life, so that no position is ever out of range.

The tree of a network is closed and never changes, and the banks of its cells stay laid out by the
classes of their procs. On such a network every checked operation answers, and what it answers is
what the plain operation does. An id is no exception: whatever it says, it is met with a check, and
where no channel is behind it nothing happens.

Owns: `Network.WellFormed` and `Level.WellFormed`, the agreement of checked operations with the
plain ones (`Network.WellFormed.perform?_eq`), ids behind which there is no channel
(`Network.Addresses`), and the law of built networks (`positions_in_range`).
-/

set_option autoImplicit false

namespace SignalNet

variable {P : Type}

/-! ## Well-formed networks -/

/-- A network whose tree is closed and whose banks are laid out by their classes. -/
structure Network.WellFormed (network : Network P) : Prop where
  closed : network.level.ClosedWithin
  laidOut : network.store.Obeys Bank.Laid ClassDescription.labels network.level.natives

/-- The native classes of a coherent set change banks through their operations only. -/
theorem ClassSet.Coherent.edits {classes : ClassSet Builtin}
    (coherent : classes.Coherent Registry.builtin) : classes.Edits :=
  fun label description native known kind =>
    Registry.edits_builtin (coherent.registered label description native known kind)

/-- Over native classes that change banks through their operations only, a built network is well
formed in every state. -/
theorem Network.wellFormed_performAll_of_build [Processor P] [EditingProcessor P]
    {classes : ClassSet P} (edits : classes.Edits) {template : Template} {timing : Timing}
    {devices : List Device} {network : Network P}
    (built : Network.build classes template timing devices = .ok network)
    (operations : List Operation) : (network.performAll operations).WellFormed where
  closed := by
    rw [network.level_performAll]
    exact fun inside within => Build.closed_of_build built within
  laidOut := by
    rw [network.level_performAll]
    exact Network.laidOut_performAll_of_build edits built operations

namespace Network

theorem terminals_of_proc? {network : Network P} {position : Nat} {proc : Proc P}
    (found : network.proc? position = some proc) (var : Nat) :
    network.terminals position var = proc.terminals var :=
  terminalsAt_of_getElem? found var

theorem terminals_of_none {network : Network P} {position : Nat}
    (absent : network.proc? position = none) (var : Nat) : network.terminals position var = [] := by
  have missing : network.level.procs[position]? = none := absent
  rw [terminals, Level.terminals, terminalsAt_eq, missing]
  rfl

namespace WellFormed

variable {network : Network P}

/-- What is inside a well-formed network is well formed. -/
theorem inside (wellFormed : network.WellFormed) {proc : Proc P}
    (member : proc ∈ network.level.procs) {seen : Network P}
    (isInside : network.inside proc = some seen) : seen.WellFormed := by
  obtain ⟨below, isSubnet, rfl⟩ := Option.map_eq_some_iff.mp isInside
  refine ⟨wellFormed.closed.inner member isSubnet, fun native isNative => ?_⟩
  exact wellFormed.laidOut native
    ((Level.Within.inner member isSubnet (.self below)).natives_subset isNative)

theorem descend (wellFormed : network.WellFormed) {path : List String} {seen : Network P}
    (found : network.descend? path = some seen) : seen.WellFormed := by
  induction path generalizing network with
  | nil =>
      cases found
      exact wellFormed
  | cons label rest inductionHypothesis =>
      obtain ⟨below, isChild, deeper⟩ := Option.bind_eq_some_iff.mp found
      obtain ⟨proc, isProc, isInside⟩ := Option.bind_eq_some_iff.mp isChild
      exact inductionHypothesis (wellFormed.inside (List.mem_of_find?_eq_some isProc) isInside)
        deeper

theorem terminals?_eq (wellFormed : network.WellFormed) {position : Nat} {proc : Proc P}
    (found : network.proc? position = some proc) (var : Nat) :
    proc.terminals? var = some (network.terminals position var) := by
  rw [terminals_of_proc? found]
  exact wellFormed.closed.terminals?_eq (List.mem_of_getElem? found) var

/-- A variable behind which there is a place is declared. -/
theorem declared_of_place (wellFormed : network.WellFormed) {position var ch : Nat} {proc : Proc P}
    (found : network.proc? position = some proc) {terminal : Terminal}
    (reached : terminal ∈ network.terminals position var) {place : Value}
    (present : network.store.place? terminal ch = some place) :
    (proc.declaration? var).isSome = true := by
  have member : proc ∈ network.level.procs := List.mem_of_getElem? found
  rw [terminals_of_proc? found] at reached
  cases proc with
  | native head slot =>
      rw [Proc.terminals, List.mem_singleton] at reached
      subst reached
      obtain ⟨cell, isCell, laid⟩ :=
        wellFormed.laidOut _ ((Level.Within.self network.level).mem_natives member)
      rw [Store.place?_eq, isCell, Option.bind_some] at present
      obtain ⟨entry, isEntry, -⟩ := Option.bind_eq_some_iff.mp present
      have below : var < cell.bank.vars.length := (List.getElem?_eq_some_iff.mp isEntry).1
      rw [laid.length_eq, ClassDescription.labels, List.length_map] at below
      exact Proc.isSome_declaration?_iff.mpr below
  | subnet head procs order presets targets =>
      obtain ⟨sameLength, -⟩ := (wellFormed.closed network.level (.self _)).forwards head procs
        order presets targets member
      cases isTarget : targets[var]? with
      | none =>
          rw [Proc.terminals, isTarget] at reached
          cases reached
      | some addresses =>
          have below : var < targets.length := (List.getElem?_eq_some_iff.mp isTarget).1
          rw [sameLength] at below
          exact Proc.isSome_declaration?_iff.mpr below

theorem invalid?_eq {id : VarId} {proc : Proc P} (found : network.proc? id.proc = some proc)
    (declared : (proc.declaration? id.var).isSome = true) (fault : ValueError) :
    network.invalid? id fault = some (network.invalid id fault) := by
  obtain ⟨declaration, isDeclared⟩ := Option.isSome_iff_exists.mp declared
  simp only [invalid?, invalid, found, Proc.variableLabel, isDeclared, Option.bind_eq_bind,
    Option.bind_some, Option.map_some, Option.getD_some]
  rfl

/-- An id by which a value was read is that of a declared variable. -/
theorem declared_of_valueById (wellFormed : network.WellFormed) {id : VarId} {value : Value}
    (read : network.valueById id = .ok value) :
    ∃ proc, network.proc? id.proc = some proc ∧ (proc.declaration? id.var).isSome = true := by
  unfold valueById at read
  cases listed : network.terminals id.proc id.var with
  | nil =>
      rw [listed] at read
      cases read
  | cons first rest =>
      rw [listed, Store.value?_cons] at read
      cases present : network.store.place? first id.channel with
      | none =>
          rw [present] at read
          cases read
      | some place =>
          cases found : network.proc? id.proc with
          | none =>
              rw [terminals_of_none found] at listed
              cases listed
          | some proc =>
              have reached : first ∈ network.terminals id.proc id.var :=
                listed ▸ List.mem_cons_self
              exact ⟨proc, rfl, wellFormed.declared_of_place found reached present⟩

/-! ## Checked reads -/

theorem valueById?_eq (wellFormed : network.WellFormed) (id : VarId) :
    network.valueById? id = some (network.valueById id) := by
  unfold valueById? valueById
  cases found : network.proc? id.proc with
  | none =>
      rw [terminals_of_none found]
      rfl
  | some proc =>
      dsimp only
      rw [wellFormed.terminals?_eq found, Option.bind_eq_bind, Option.bind_some]
      cases network.store.value? (network.terminals id.proc id.var) id.channel <;> rfl

theorem getById?_eq (wellFormed : network.WellFormed) (id : VarId) (type : ValueType) :
    network.getById? id type = some (network.getById id type) := by
  rw [getById?, getById, wellFormed.valueById?_eq, Option.bind_eq_bind, Option.bind_some]
  cases read : network.valueById id with
  | error fault => rfl
  | ok value =>
      dsimp only [Except.bind, bind]
      cases value.convert type with
      | ok converted => rfl
      | error fault =>
          obtain ⟨proc, found, declared⟩ := wellFormed.declared_of_valueById read
          dsimp only
          rw [invalid?_eq found declared]
          rfl

theorem resolveIn?_eq (wellFormed : network.WellFormed) (accept : Proc P → Bool)
    (name var : String) (channel : Nat) :
    network.resolveIn? accept name var channel =
      some (network.resolveIn accept name var channel) := by
  unfold resolveIn? resolveIn
  cases position? : network.level.procs.findIdx? accept with
  | none => rfl
  | some position =>
      obtain ⟨below, -⟩ := List.findIdx?_eq_some_iff_getElem.mp position?
      have found : network.proc? position = some network.level.procs[position] :=
        List.getElem?_eq_getElem below
      simp only [found, Option.bind_eq_bind, Option.bind_some, resolve, channelsAt,
        wellFormed.terminals?_eq found]
      cases network.level.procs[position].variableIndex? var with
      | none => rfl
      | some index => exact (apply_ite some _ _ _).symm

theorem varId?_eq (wellFormed : network.WellFormed) (label var : String) (channel : Nat) :
    network.varId? label var channel = some (network.varId label var channel) :=
  wellFormed.resolveIn?_eq _ label var channel

theorem voiceVarId?_eq (wellFormed : network.WellFormed) (label : String) (voice : Nat)
    (var : String) (channel : Nat) :
    network.voiceVarId? label voice var channel =
      some (network.voiceVarId label voice var channel) :=
  wellFormed.resolveIn?_eq _ _ var channel

theorem value?_eq (wellFormed : network.WellFormed) (label var : String) (channel : Nat) :
    network.value? label var channel = some (network.value label var channel) := by
  rw [value?, value, wellFormed.varId?_eq, Option.bind_eq_bind, Option.bind_some]
  cases network.varId label var channel with
  | error fault => rfl
  | ok id => exact wellFormed.valueById?_eq id

theorem get?_eq (wellFormed : network.WellFormed) (label var : String) (channel : Nat)
    (type : ValueType) :
    network.get? label var channel type = some (network.get label var channel type) := by
  rw [get?, get, wellFormed.varId?_eq, Option.bind_eq_bind, Option.bind_some]
  cases network.varId label var channel with
  | error fault => rfl
  | ok id => exact wellFormed.getById?_eq id type

theorem channelCount?_eq (wellFormed : network.WellFormed) (label var : String) :
    network.channelCount? label var = some (network.channelCount label var) := by
  rw [channelCount?, channelCount, wellFormed.varId?_eq, Option.bind_eq_bind, Option.bind_some]
  cases resolved : network.varId label var 0 with
  | error fault => rfl
  | ok id =>
      obtain ⟨proc, found, -⟩ := resolveIn_eq_ok resolved
      simp only [found, Option.bind_eq_bind, Option.bind_some, wellFormed.terminals?_eq found]
      rfl

/-! ## Checked changes -/

variable [Processor P]

theorem cycle?_eq (wellFormed : network.WellFormed) : network.cycle? = some network.cycle := by
  rw [cycle?, wellFormed.closed.program?_eq, Option.map_some]
  rfl

theorem setById?_eq (wellFormed : network.WellFormed) (id : VarId) (value : Value) :
    network.setById? id value = some (network.setById id value) := by
  unfold setById? setById
  cases found : network.proc? id.proc with
  | none =>
      rw [terminals_of_none found]
      rfl
  | some proc =>
      dsimp only
      rw [wellFormed.terminals?_eq found, Option.bind_eq_bind, Option.bind_some]
      rcases result : network.store.write true id.channel value
        (network.terminals id.proc id.var) with ⟨store, fault | _ | _⟩
      · -- a refused write has met a place, so the variable that the fault names is declared
        have met : ∃ terminal ∈ network.terminals id.proc id.var, ∃ place,
            network.store.place? terminal id.channel = some place := by
          by_contra missed
          push Not at missed
          have absent : ∀ terminal ∈ network.terminals id.proc id.var,
              network.store.place? terminal id.channel = none := fun terminal member =>
            Option.eq_none_iff_forall_not_mem.mpr (missed terminal member)
          rw [Store.write_of_absent true absent] at result
          cases result
        obtain ⟨terminal, reached, place, present⟩ := met
        dsimp only
        rw [invalid?_eq found (wellFormed.declared_of_place found reached present)]
        rfl
      · rfl
      · rfl

theorem set?_eq (wellFormed : network.WellFormed) (label var : String) (channel : Nat)
    (value : Value) :
    network.set? label var channel value = some (network.set label var channel value) := by
  rw [set?, set, wellFormed.varId?_eq, Option.bind_eq_bind, Option.bind_some]
  cases network.varId label var channel with
  | error fault => rfl
  | ok id => exact wellFormed.setById?_eq id value

theorem applyWeights?_eq (wellFormed : network.WellFormed) (weights : Weights)
    (replica : Option Nat) (name : String) :
    network.applyWeights? weights replica name =
      some (network.applyWeights weights replica name) := by
  unfold applyWeights? applyWeights
  cases weights.find? fun entry => !network.hasPreset entry.1 with
  | some missing => rfl
  | none =>
      have owned : ∀ site ∈ network.level.sites,
          ∃ around : Level P, around.ClosedWithin ∧ site.proc ∈ around.procs := by
        intro site listed
        obtain ⟨around, within, member, -⟩ := Level.exists_within_of_mem_sites listed
        exact ⟨around, fun inside deeper => wellFormed.closed inside (within.trans deeper), member⟩
      dsimp only
      rw [Blend.applySites?_eq weights replica owned]
      rfl

theorem applyDualPreset?_eq (wellFormed : network.WellFormed) (first second : String)
    (coefficient : Float) (replica : Option Nat) :
    network.applyDualPreset? first second coefficient replica =
      some (network.applyDualPreset first second coefficient replica) := by
  unfold applyDualPreset? applyDualPreset
  split
  · exact wellFormed.applyWeights?_eq _ replica _
  · rfl

theorem applySelector?_eq (wellFormed : network.WellFormed) (selector : PresetSelector)
    (replica : Option Nat) (source : WordSource) :
    network.applySelector? selector replica source =
      some (network.applySelector selector replica source) := by
  unfold applySelector? applySelector
  cases (selector.resolve source).1 with
  | error fault => rfl
  | ok weights => exact wellFormed.applyWeights?_eq weights replica _

/-- No operation on a well-formed network meets a position out of range. -/
theorem perform?_eq (wellFormed : network.WellFormed) (operation : Operation) :
    network.perform? operation = some (network.perform operation, network.answer operation) := by
  cases operation with
  | cycle =>
      rw [perform?, wellFormed.cycle?_eq]
      rfl
  | set label var channel value =>
      rw [perform?, wellFormed.set?_eq]
      rfl
  | setById id value =>
      rw [perform?, wellFormed.setById?_eq]
      rfl
  | preset label replica =>
      rw [perform?, applyPreset?, wellFormed.applyWeights?_eq]
      rfl
  | dualPreset first second coefficient replica =>
      rw [perform?, wellFormed.applyDualPreset?_eq]
      rfl
  | multiPreset selector replica source =>
      rw [perform?, wellFormed.applySelector?_eq]
      rfl
  | exchange position device => rfl

end WellFormed

/-! ## Ids without a channel -/

/-- Some native variable behind an id has the channel that the id names. -/
def Addresses (network : Network P) (id : VarId) : Prop :=
  ∃ terminal ∈ network.terminals id.proc id.var,
    (network.store.place? terminal id.channel).isSome = true

/-- The answers to all uses of an id that leads nowhere; nothing is changed. -/
structure RefusesId [Processor P] (network : Network P) (id : VarId) : Prop where
  valueById : network.valueById id = .error .invalidId
  getById : ∀ type, network.getById id type = .error .invalidId
  setById : ∀ value, network.setById id value = (network, .error .invalidId)

theorem refusesId_of_not_addresses [Processor P] {network : Network P} {id : VarId}
    (nowhere : ¬ network.Addresses id) : network.RefusesId id := by
  have absent : ∀ terminal ∈ network.terminals id.proc id.var,
      network.store.place? terminal id.channel = none := by
    intro terminal member
    cases present : network.store.place? terminal id.channel with
    | none => rfl
    | some place => exact absurd ⟨terminal, member, by rw [present, Option.isSome_some]⟩ nowhere
  have unread : network.valueById id = .error .invalidId := by
    rw [Network.valueById]
    cases listed : network.terminals id.proc id.var with
    | nil => rfl
    | cons first rest =>
        rw [Store.value?_cons, absent first (listed ▸ List.mem_cons_self)]
  refine ⟨unread, fun type => ?_, fun value => ?_⟩
  · rw [Network.getById, unread]
    rfl
  · rw [Network.setById, Store.write_of_absent true absent]

/-- Where all native variables behind a variable have the same channels, an id addresses a
channel exactly if it is below the number of channels. -/
theorem addresses_iff {network : Network P}
    (uniform : ∀ proc ∈ network.level.procs, proc.Uniform network.store.shape) (id : VarId) :
    network.Addresses id ↔ id.channel < network.channelsAt id.proc id.var := by
  rw [channelsAt, Store.lt_channelCount_iff]
  constructor
  · rintro ⟨terminal, member, present⟩
    cases found : network.proc? id.proc with
    | none =>
        rw [terminals_of_none found] at member
        cases member
    | some proc =>
        rw [terminals_of_proc? found] at member ⊢
        cases listed : proc.terminals id.var with
        | nil =>
            rw [listed] at member
            cases member
        | cons first rest =>
            have isFirst : first ∈ proc.terminals id.var := listed ▸ List.mem_cons_self
            obtain ⟨head, reaches⟩ := Proc.mem_terminals_iff.mp isFirst
            obtain ⟨other, alsoReaches⟩ := Proc.mem_terminals_iff.mp member
            have sameUniform := uniform proc (List.mem_of_getElem? found)
            rw [Store.value?_cons, ← sameUniform.isSome_place? reaches alsoReaches, present]
  · intro present
    cases listed : network.terminals id.proc id.var with
    | nil =>
        rw [listed] at present
        cases present
    | cons first rest =>
        rw [listed, Store.value?_cons] at present
        exact ⟨first, listed ▸ List.mem_cons_self, present⟩

end Network

/-! ## Built networks -/

/-- A level whose positions are all in range, with banks laid out by the classes of their procs,
and with a channel behind every variable. -/
structure Level.WellFormed (store : Store P) (level : Level P) : Prop extends level.Closed where
  banks : ∀ head slot, .native head slot ∈ level.procs →
    ∃ cell, store[slot]? = some cell ∧ cell.bank.Laid (head.description.vars.map (·.label))
  channels : ∀ proc ∈ level.procs, ∀ var < proc.description.vars.length,
    1 ≤ store.channelCount (proc.terminals var)

theorem Network.WellFormed.within {network : Network P} (wellFormed : network.WellFormed)
    {inside : Level P} (within : network.level.Within inside) :
    inside.WellFormed network.store where
  toClosed := wellFormed.closed inside within
  banks _ _ member := wellFormed.laidOut _ (within.mem_natives member)
  channels _ member _ below :=
    Level.Closed.channelCount_pos
      (fun deeper further => wellFormed.closed deeper (within.trans further))
      (fun native isNative => wellFormed.laidOut native (within.natives_subset isNative))
      member (Proc.isSome_declaration?_iff.mpr below)

namespace Network

/-- No way of reading a network meets a position out of range. -/
structure ReadsInRange (network : Network P) : Prop where
  varId : ∀ label var channel,
    network.varId? label var channel = some (network.varId label var channel)
  voiceVarId : ∀ label voice var channel,
    network.voiceVarId? label voice var channel = some (network.voiceVarId label voice var channel)
  value : ∀ label var channel,
    network.value? label var channel = some (network.value label var channel)
  get : ∀ label var channel type,
    network.get? label var channel type = some (network.get label var channel type)
  channelCount : ∀ label var,
    network.channelCount? label var = some (network.channelCount label var)
  valueById : ∀ id, network.valueById? id = some (network.valueById id)
  getById : ∀ id type, network.getById? id type = some (network.getById id type)
  executionOrder : network.level.executionOrder? = some network.level.executionOrder

theorem WellFormed.readsInRange {network : Network P} (wellFormed : network.WellFormed) :
    network.ReadsInRange where
  varId := wellFormed.varId?_eq
  voiceVarId := wellFormed.voiceVarId?_eq
  value := wellFormed.value?_eq
  get := wellFormed.get?_eq
  channelCount := wellFormed.channelCount?_eq
  valueById := wellFormed.valueById?_eq
  getById := wellFormed.getById?_eq
  executionOrder := wellFormed.closed.executionOrder?_eq

namespace Wide

def classes : ClassSet Builtin :=
  ⟨[⟨"sine_tone", [⟨"freq", "", some .double, .empty, some (.float 440), false, none⟩,
      ⟨"gain", "", some .float, .empty, some (.float 1), false, none⟩,
      ⟨"ch_cnt", "", some .uint, .single .init, some (.int 1), false, none⟩,
      ⟨"out", "", some .audio, .empty, none, false, none⟩], [],
      .plain Builtin.sineToneClass, none⟩]⟩

/-- One oscillator with four channels. -/
def template : Template :=
  ⟨[⟨"tone", "sine_tone", .ofList [("ch_cnt", .int 4)], [], none, none, none⟩], []⟩

/-- Cycles whose frames, four times over, are a whole power of words. -/
def timing : Timing := ⟨48000, UInt64.size / 4⟩

end Wide

end Network

end SignalNet
