import SignalNet.Proofs.Network.Counterparts

/-!
Contract: what a write through an address does to a built network.

A write goes to all native variables behind the address in turn. They are counterparts, so
they take the value in the same type: either all of them take it, or the first one that is
there refuses it and nothing was stored. A write that is taken shows in all of them and
nowhere else, and reading by the same address gives it back.

Owns: writes to places of one type (`Store.MeetsType`), the law of writes that are refused
(`refused_writes_change_nothing`), and that of writes that are taken
(`set_stores_in_counterparts`).
-/

set_option autoImplicit false

namespace SignalNet

variable {P : Type}

/-! ## Writes to places of one type -/

namespace Store

variable [Processor P] {store after : Store P} {notify : Bool} {ch : Nat} {source : Value}
  {head : Terminal} {rest terminals : List Terminal} {held : Value} {fault : ValueError}

/-- All places that a write meets are of one type. -/
def MeetsType (store : Store P) (terminals : List Terminal) (ch : Nat) (type : ValueType) : Prop :=
  ∀ terminal ∈ terminals, ∀ place, store.place? terminal ch = some place → place.type = type

variable {type : ValueType}

omit [Processor P] in
theorem MeetsType.tail (meets : store.MeetsType (head :: rest) ch type) :
    store.MeetsType rest ch type :=
  fun terminal member => meets terminal (List.mem_cons_of_mem _ member)

theorem write_of_refused (notify : Bool) (meets : store.MeetsType terminals ch type)
    (refused : source.convert type = .error fault) :
    (write notify ch source terminals store).1 = store := by
  induction terminals with
  | nil => rfl
  | cons head rest inductionHypothesis =>
      cases present : store.place? head ch with
      | none =>
          rw [write_cons_of_absent present]
          exact inductionHypothesis meets.tail
      | some place =>
          rw [← meets head List.mem_cons_self place present] at refused
          rw [write_cons_of_refused present refused]

theorem write_eq_ok_of_converted (notify : Bool) (meets : store.MeetsType terminals ch type)
    (converted : source.convert type = .ok held) :
    ∃ wrote, (write notify ch source terminals store).2 = .ok wrote := by
  induction terminals generalizing store with
  | nil => exact ⟨false, rfl⟩
  | cons head rest inductionHypothesis =>
      cases present : store.place? head ch with
      | none =>
          rw [write_cons_of_absent present]
          exact inductionHypothesis meets.tail
      | some place =>
          have here := meets head List.mem_cons_self place present
          obtain ⟨next, places, isWrite⟩ :=
            write_cons_of_stored notify rest present (here ▸ converted)
          have nextMeets : next.MeetsType rest ch type := by
            intro terminal member other otherPresent
            rw [places] at otherPresent
            split at otherPresent
            · cases otherPresent
              exact Value.type_of_convert converted
            · exact meets.tail terminal member other otherPresent
          obtain ⟨wrote, others⟩ := inductionHypothesis nextMeets
          rw [isWrite, others]
          exact ⟨true, rfl⟩

/-- A write that met no place stored nothing. -/
theorem write_of_ok_false (missed : (write notify ch source terminals store).2 = .ok false) :
    (write notify ch source terminals store).1 = store := by
  induction terminals with
  | nil => rfl
  | cons head rest inductionHypothesis =>
      cases present : store.place? head ch with
      | none =>
          rw [write_cons_of_absent present] at missed ⊢
          exact inductionHypothesis missed
      | some place =>
          cases converted : source.convert place.type with
          | error fault => rw [write_cons_of_refused present converted]
          | ok held =>
              obtain ⟨next, -, isWrite⟩ := write_cons_of_stored notify rest present converted
              rw [isWrite] at missed
              obtain ⟨wrote, -, impossible⟩ := map_eq_ok.mp missed
              cases impossible

/-- A write to places of one type that is not taken stores nothing. -/
theorem write_unchanged (meets : store.MeetsType terminals ch type)
    (notTaken : (write notify ch source terminals store).2 ≠ .ok true) :
    (write notify ch source terminals store).1 = store := by
  cases converted : source.convert type with
  | error fault => exact write_of_refused notify meets converted
  | ok held =>
      obtain ⟨wrote, completed⟩ := write_eq_ok_of_converted notify meets converted
      cases wrote with
      | false => exact write_of_ok_false completed
      | true => exact absurd completed notTaken

/-- A write to places of one type that is taken leaves the same value in all of them. -/
theorem exists_place?_of_taken {wrote : Bool} (meets : store.MeetsType terminals ch type)
    (present : ∀ terminal ∈ terminals, ∃ place, store.place? terminal ch = some place)
    (taken : write notify ch source terminals store = (after, .ok wrote)) {first : Terminal}
    (isFirst : first ∈ terminals) :
    ∃ held, source.convert type = .ok held ∧
      ∀ terminal ∈ terminals, after.place? terminal ch = some held := by
  have stored : ∀ terminal ∈ terminals, ∃ held, source.convert type = .ok held ∧
      after.place? terminal ch = some held := by
    intro terminal member
    obtain ⟨place, there⟩ := present terminal member
    obtain ⟨held, heldThere, converted⟩ := place?_write taken member there
    rw [meets terminal member place there] at converted
    exact ⟨held, converted, heldThere⟩
  obtain ⟨held, converted, -⟩ := stored first isFirst
  refine ⟨held, converted, fun terminal member => ?_⟩
  obtain ⟨other, alsoConverted, otherThere⟩ := stored terminal member
  rw [otherThere, Except.ok.inj (converted.symm.trans alsoConverted)]

theorem place?_write_outside {outcome : Except ValueError Bool}
    (written : write notify ch source terminals store = (after, outcome)) {terminal : Terminal}
    {channel : Nat} (outside : terminal ∈ terminals → channel ≠ ch) :
    after.place? terminal channel = store.place? terminal channel := by
  by_cases here : channel = ch
  · have isWritten := written_write notify ch source terminals store
    rw [written] at isWritten
    exact isWritten.place?_unchanged (fun member => outside member here) channel
  · have frame := place?_write_channel notify source terminals store terminal here
    rwa [written] at frame

end Store

/-! ## Addresses of built networks -/

/-- A value in a place behind a variable has the type that its native proc declares. -/
theorem Proc.Reaches.exists_declaration {level : Level P} {store : Store P}
    (typed : store.Types level.natives) {proc : Proc P} (member : proc ∈ level.procs) {var ch : Nat}
    {head : ProcHead P} {terminal : Terminal} (reaches : proc.Reaches var head terminal)
    {place : Value} (present : store.place? terminal ch = some place) :
    ∃ declaration, head.description.vars[terminal.var]? = some declaration ∧
      place.type = declaration.type := by
  obtain ⟨cell, found, bankTyped⟩ := typed _ (reaches.mem_natives (.self level) member)
  rw [Store.place?_eq, found, Option.bind_some] at present
  have isType := bankTyped.type_of_get? present
  rw [ClassDescription.types, List.getElem?_map] at isType
  obtain ⟨declaration, listed, same⟩ := Option.map_eq_some_iff.mp isType
  exact ⟨declaration, listed, same.symm⟩

/-- Values in the same channel of counterparts are of one type. -/
theorem Proc.Uniform.type_eq {level : Level P} {store : Store P} {proc : Proc P}
    {shapes : List (List VariableShape)} (uniform : proc.Uniform shapes)
    (typed : store.Types level.natives) (member : proc ∈ level.procs) {var ch : Nat}
    {head other : ProcHead P} {terminal counterpart : Terminal}
    (reaches : proc.Reaches var head terminal) (alsoReaches : proc.Reaches var other counterpart)
    {place value : Value} (present : store.place? terminal ch = some place)
    (alsoPresent : store.place? counterpart ch = some value) : value.type = place.type := by
  obtain ⟨sameClass, sameVar, -⟩ := uniform _ _ _ _ _ reaches alsoReaches
  obtain ⟨declared, listed, type⟩ := reaches.exists_declaration typed member present
  obtain ⟨other, alsoListed, otherType⟩ := alsoReaches.exists_declaration typed member alsoPresent
  rw [sameClass, sameVar, listed] at alsoListed
  rw [type, otherType, Option.some.inj alsoListed]

/-- The places behind a variable are all there if the first of them is, and there is one if the
variable has any channel. -/
theorem Proc.Uniform.exists_place? {store : Store P} {proc : Proc P}
    (uniform : proc.Uniform store.shape) {var ch : Nat}
    (below : ch < store.channelCount (proc.terminals var)) :
    (∃ first rest, proc.terminals var = first :: rest) ∧
      ∀ terminal ∈ proc.terminals var, ∃ place, store.place? terminal ch = some place := by
  rw [Store.lt_channelCount_iff] at below
  cases listed : proc.terminals var with
  | nil =>
      rw [listed] at below
      cases below
  | cons first rest =>
      rw [listed, Store.value?_cons] at below
      refine ⟨⟨first, rest, rfl⟩, fun terminal member => Option.isSome_iff_exists.mp ?_⟩
      rw [← listed] at member
      have isFirst : first ∈ proc.terminals var := listed ▸ List.mem_cons_self
      obtain ⟨head, reaches⟩ := Proc.mem_terminals_iff.mp isFirst
      obtain ⟨other, alsoReaches⟩ := Proc.mem_terminals_iff.mp member
      rw [uniform.isSome_place? reaches alsoReaches, below]

/-- A variable has every channel that one of the places behind it has. -/
theorem Proc.Uniform.lt_channelCount {store : Store P} {proc : Proc P}
    (uniform : proc.Uniform store.shape) {var ch : Nat} {terminal : Terminal}
    (reached : terminal ∈ proc.terminals var) {value : Value}
    (present : store.place? terminal ch = some value) :
    ch < store.channelCount (proc.terminals var) := by
  rw [Store.lt_channelCount_iff]
  obtain ⟨head, reaches⟩ := Proc.mem_terminals_iff.mp reached
  cases listed : proc.terminals var with
  | nil =>
      rw [listed] at reached
      cases reached
  | cons first rest =>
      have isFirst : first ∈ proc.terminals var := listed ▸ List.mem_cons_self
      obtain ⟨other, alsoReaches⟩ := Proc.mem_terminals_iff.mp isFirst
      rw [Store.value?_cons, uniform.isSome_place? reaches alsoReaches, present]
      rfl

namespace Network

theorem valueById_of_first {network : Network P} {id : VarId} {first : Terminal}
    {rest : List Terminal} (listed : network.terminals id.proc id.var = first :: rest)
    {held : Value} (there : network.store.place? first id.channel = some held) :
    network.valueById id = .ok held := by
  rw [valueById, listed, Store.value?_cons, there]

/-- The places behind the variable of a resolved id are all there, and there is one. -/
theorem places_of_resolved {reached : Network P} {label var : String} {channel : Nat} {id : VarId}
    (uniform : ∀ proc ∈ reached.level.procs, proc.Uniform reached.store.shape)
    (resolved : reached.varId label var channel = .ok id) :
    id.channel = channel ∧ ∃ proc, reached.proc? id.proc = some proc ∧
      reached.terminals id.proc id.var = proc.terminals id.var ∧
        (∃ first rest, proc.terminals id.var = first :: rest) ∧
          ∀ terminal ∈ proc.terminals id.var,
            ∃ place, reached.store.place? terminal channel = some place := by
  obtain ⟨proc, found, -, -, rfl, below⟩ := resolveIn_eq_ok resolved
  have sameTerminals : reached.terminals id.proc id.var = proc.terminals id.var :=
    terminalsAt_of_getElem? found id.var
  rw [channelsAt, sameTerminals] at below
  exact ⟨rfl, proc, found, sameTerminals,
    (uniform proc (List.mem_of_getElem? found)).exists_place? below⟩

variable [Processor P]

/-- Assignments do not change what an address resolves to. -/
theorem varId_of_written (network : Network P) {reached : Terminal → Prop} {store : Store P}
    (written : Store.Written reached network.store store) (label var : String) (channel : Nat) :
    ({ network with store } : Network P).varId label var channel =
      network.varId label var channel :=
  resolveIn_congr (by rfl) written.shape_eq _ _ _ _

theorem setById_snd_eq_ok {network : Network P} {id : VarId} {value : Value} :
    (network.setById id value).2 = .ok () ↔
      (network.store.write true id.channel value (network.terminals id.proc id.var)).2 =
        .ok true := by
  unfold setById
  split <;> rename_i result <;> rw [result] <;> simp

theorem setById_eq_ok {network after : Network P} {id : VarId} {value : Value}
    (succeeded : network.setById id value = (after, .ok ())) :
    ∃ store, network.store.write true id.channel value (network.terminals id.proc id.var) =
        (store, .ok true) ∧ after = { network with store } := by
  have taken := setById_snd_eq_ok.mp (congrArg Prod.snd succeeded)
  have isAfter := network.setById_fst id value
  rw [succeeded] at isAfter
  exact ⟨_, Prod.ext rfl taken, isAfter⟩

theorem set_of_resolved {network : Network P} {label var : String} {channel : Nat} {id : VarId}
    (resolved : network.varId label var channel = .ok id) (value : Value) :
    network.set label var channel value = network.setById id value := by
  rw [set, resolved]

theorem resolved_of_set {network after : Network P} {label var : String} {channel : Nat}
    {value : Value} (succeeded : network.set label var channel value = (after, .ok ())) :
    ∃ id, network.varId label var channel = .ok id ∧
      network.setById id value = (after, .ok ()) := by
  cases resolved : network.varId label var channel with
  | error missing =>
      rw [set, resolved] at succeeded
      cases succeeded
  | ok id => exact ⟨id, rfl, (set_of_resolved resolved value).symm.trans succeeded⟩

variable [TypedProcessor P] {classes : ClassSet P} {template : Template} {timing : Timing}
  {devices : List Device} {network : Network P}

/-- The places behind a variable are of one type in every state of a built network, at every
depth. -/
theorem exists_meetsType_within (lawful : classes.Lawful)
    (built : Network.build classes template timing devices = .ok network)
    (operations : List Operation) {inside : Level P} (within : network.level.Within inside)
    {proc : Proc P} (member : proc ∈ inside.procs) (var ch : Nat) :
    ∃ type, (network.performAll operations).store.MeetsType (proc.terminals var) ch type := by
  have typed : (network.performAll operations).store.Types inside.natives :=
    fun native isNative => Network.types_performAll_of_build lawful built operations native
      (within.natives_subset isNative)
  have uniform := Build.uniform_within_of_build built within member
  by_cases meetsAny : ∃ terminal ∈ proc.terminals var, ∃ place,
      (network.performAll operations).store.place? terminal ch = some place
  · obtain ⟨first, isFirst, firstPlace, firstPresent⟩ := meetsAny
    refine ⟨firstPlace.type, fun terminal isTerminal place present => ?_⟩
    obtain ⟨firstHead, firstReaches⟩ := Proc.mem_terminals_iff.mp isFirst
    obtain ⟨head, reaches⟩ := Proc.mem_terminals_iff.mp isTerminal
    exact uniform.type_eq typed member firstReaches reaches firstPresent present
  · refine ⟨.double, fun terminal isTerminal place present => ?_⟩
    exact absurd ⟨terminal, isTerminal, place, present⟩ meetsAny

/-- The places behind an address are of one type in every state of a built network. -/
theorem exists_meetsType (lawful : classes.Lawful)
    (built : Network.build classes template timing devices = .ok network)
    (operations : List Operation) (position var ch : Nat) :
    let reached := network.performAll operations
    ∃ type, reached.store.MeetsType (reached.terminals position var) ch type := by
  intro reached
  rw [terminals, network.level_performAll, Level.terminals, terminalsAt_eq]
  cases found : network.level.procs[position]? with
  | none => exact ⟨.double, fun terminal absent => absurd absent List.not_mem_nil⟩
  | some proc =>
      exact exists_meetsType_within lawful built operations (.self _) (List.mem_of_getElem? found)
        var ch

/-! ## Refused writes -/

theorem setById_of_refused (lawful : classes.Lawful)
    (built : Network.build classes template timing devices = .ok network)
    (operations : List Operation) {id : VarId} {value : Value} {fault : NetworkError} :
    let reached := network.performAll operations
    (reached.setById id value).2 = .error fault → (reached.setById id value).1 = reached := by
  intro reached refused
  obtain ⟨type, meets⟩ := exists_meetsType lawful built operations id.proc id.var id.channel
  have notTaken :
      (reached.store.write true id.channel value (reached.terminals id.proc id.var)).2 ≠
        .ok true := by
    rw [Ne, ← setById_snd_eq_ok, refused]
    exact fun impossible => by cases impossible
  rw [setById_fst, Store.write_unchanged meets notTaken]

/-- Over native classes that keep banks typed, as all built-in ones do, a write that is refused
leaves a network as it was, in every state that it can reach: no channel at any depth was
assigned to and no processor was told of anything, also where the address forwards to several
voices through several subnets. The same holds of writes by resolved ids. -/
theorem refused_writes_change_nothing (lawful : classes.Lawful)
    (built : Network.build classes template timing devices = .ok network)
    (operations : List Operation) :
    let reached := network.performAll operations
    (∀ label var channel value after fault,
        reached.set label var channel value = (after, .error fault) → after = reached) ∧
      ∀ id value after fault,
        reached.setById id value = (after, .error fault) → after = reached := by
  intro reached
  have byId : ∀ id value after fault,
      reached.setById id value = (after, .error fault) → after = reached := by
    intro id value after fault refused
    have unchanged := setById_of_refused lawful built operations (congrArg Prod.snd refused)
    rwa [refused] at unchanged
  refine ⟨fun label var channel value after fault refused => ?_, byId⟩
  cases resolved : reached.varId label var channel with
  | error missing =>
      rw [set, resolved] at refused
      exact (congrArg Prod.fst refused).symm
  | ok id =>
      rw [set_of_resolved resolved] at refused
      exact byId id value after fault refused

/-- A text for the numbers in both voices inside the outer shell is refused after a cycle. -/
theorem shells_refuse_text :
    ∃ network : Network Builtin,
      Network.build Shells.classes Shells.template .standard [] = .ok network ∧
        let reached := network.performAll [.cycle]
        ∃ after, reached.set "shell" "level" 0 (.string "loud") = (after, .error
            (.invalidValue "shell" "level" (.mismatch .double (.value (.string "loud"))))) ∧
          after = reached := by
  have lawful := (coherent_of_finish Shells.finish_eq).lawful
  have built : Network.build Shells.classes Shells.template .standard [] = .ok _ := rfl
  refine ⟨_, built, _, rfl, ?_⟩
  exact (refused_writes_change_nothing lawful built [.cycle]).1 "shell" "level" 0
    (.string "loud") _ _ rfl

/-! ## Writes that are taken -/

/-- Over native classes that keep banks typed and in shape, as all built-in ones do, a write
that succeeds in some state of a built network stores the value in every native variable that
the address forwards to, in all voices and through any number of subnets, converted to the
type that is declared there. That is the same value everywhere, and what the address reads
afterwards. All other channels, the connections, the devices and the cycle index stay. -/
theorem set_stores_in_counterparts [SteadyProcessor P] (lawful : classes.Lawful)
    (built : Network.build classes template timing devices = .ok network)
    (operations : List Operation) {label var : String} {channel : Nat} {value : Value}
    {after : Network P}
    (succeeded : (network.performAll operations).set label var channel value = (after, .ok ())) :
    let reached := network.performAll operations
    ∃ id proc held, reached.varId label var channel = .ok id ∧ reached.proc? id.proc = some proc ∧
      (∀ head terminal, proc.Reaches id.var head terminal →
        ∃ declaration, head.description.vars[terminal.var]? = some declaration ∧
          value.convert declaration.type = .ok held ∧
            after.store.place? terminal channel = some held) ∧
        after.value label var channel = .ok held ∧
          (∀ terminal ch, (∀ head, proc.Reaches id.var head terminal → ch ≠ channel) →
            after.store.place? terminal ch = reached.store.place? terminal ch) ∧
            after = { reached with store := after.store } := by
  intro reached
  have sameLevel : reached.level = network.level := network.level_performAll operations
  have typed := Network.types_performAll_of_build lawful built operations
  have uniform : ∀ proc ∈ reached.level.procs, proc.Uniform reached.store.shape := by
    rw [sameLevel, network.shape_performAll operations]
    exact fun proc member => Build.uniform_of_build built member
  -- the write goes to the places behind the variable that the address resolves to
  obtain ⟨id, resolved, taken⟩ := resolved_of_set succeeded
  obtain ⟨rfl, proc, found, sameTerminals, ⟨first, rest, listed⟩, present⟩ :=
    places_of_resolved uniform resolved
  obtain ⟨store, written, rfl⟩ := setById_eq_ok taken
  obtain ⟨type, meets⟩ := exists_meetsType lawful built operations id.proc id.var id.channel
  rw [sameTerminals] at written meets
  obtain ⟨held, converted, stored⟩ :=
    Store.exists_place?_of_taken meets present written (listed ▸ List.mem_cons_self)
  refine ⟨id, proc, held, resolved, found, ?_, ?_, ?_, rfl⟩
  · intro head terminal reaches
    have member := Proc.mem_terminals_iff.mpr ⟨head, reaches⟩
    obtain ⟨place, there⟩ := present terminal member
    obtain ⟨declaration, declared, isType⟩ :=
      reaches.exists_declaration (sameLevel ▸ typed) (List.mem_of_getElem? found) there
    refine ⟨declaration, declared, ?_, stored terminal member⟩
    rw [← isType, meets terminal member place there, converted]
  · have isWritten :=
      Store.written_write true id.channel value (proc.terminals id.var) reached.store
    rw [written] at isWritten
    rw [Network.value, (reached.varId_of_written isWritten label var id.channel).trans resolved]
    exact valueById_of_first (by exact sameTerminals.trans listed)
      (stored first (listed ▸ List.mem_cons_self))
  · intro terminal ch outside
    refine Store.place?_write_outside written fun member => ?_
    obtain ⟨head, reaches⟩ := Proc.mem_terminals_iff.mp member
    exact outside head reaches

/-- A number for the outer shell is held by both voices inside it, and read back from it. -/
theorem shells_store_number :
    ∃ network after : Network Builtin,
      Network.build Shells.classes Shells.template .standard [] = .ok network ∧
        let reached := network.performAll [.cycle]
        reached.set "shell" "level" 0 (.double 2) = (after, .ok ()) ∧
          ∃ id proc held, reached.varId "shell" "level" 0 = .ok id ∧
            reached.proc? id.proc = some proc ∧
            (∀ head terminal, proc.Reaches id.var head terminal →
              ∃ declaration, head.description.vars[terminal.var]? = some declaration ∧
                (Value.double 2).convert declaration.type = .ok held ∧
                  after.store.place? terminal 0 = some held) ∧
              after.value "shell" "level" 0 = .ok held ∧
                (∀ terminal ch, (∀ head, proc.Reaches id.var head terminal → ch ≠ 0) →
                  after.store.place? terminal ch = reached.store.place? terminal ch) ∧
                  after = { reached with store := after.store } := by
  have lawful := (coherent_of_finish Shells.finish_eq).lawful
  have built : Network.build Shells.classes Shells.template .standard [] = .ok _ := rfl
  refine ⟨_, _, built, rfl, ?_⟩
  exact set_stores_in_counterparts lawful built [.cycle] rfl

end Network

end SignalNet
