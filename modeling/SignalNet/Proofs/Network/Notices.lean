import SignalNet.Proofs.Network.Access
import SignalNet.Proofs.Network.Begun

/-!
Contract: who hears of a write, and how often.

A write from outside the cycle stores a value in native channels one after the other, and after
each of them it tells the processor of the cell which variable that was. A processor that keeps
something derived from its variables relies on hearing of every such store, once and with the
value in place. What goes on inside, connections and what a network is built with, is silent.

Owns: stores with their notices (`Store.Told`), that writes through an address are such stores in
cells of their own (`Network.Heard`), and the silence of everything else that assigns.
-/

set_option autoImplicit false

namespace SignalNet

variable {P : Type}

/-- A value for one channel of a native variable. -/
structure Deposit where
  terminal : Terminal
  channel : Nat
  held : Value

namespace Store

/-- What a write of a value puts into a channel of a native variable, if it is there and can hold
the value. -/
def depositOf? (store : Store P) (ch : Nat) (value : Value) (terminal : Terminal) :
    Option Deposit :=
  (store.place? terminal ch).bind fun place =>
    (value.convert place.type).toOption.map fun held => ⟨terminal, ch, held⟩

def depositsOf (store : Store P) (terminals : List Terminal) (ch : Nat) (value : Value) :
    List Deposit :=
  terminals.filterMap (store.depositOf? ch value)

variable {store other : Store P} {terminal : Terminal} {ch : Nat} {value place held : Value}

theorem depositOf?_of_absent (absent : store.place? terminal ch = none) :
    store.depositOf? ch value terminal = none := by
  rw [depositOf?, absent]
  rfl

theorem depositOf?_of_converted (present : store.place? terminal ch = some place)
    (converted : value.convert place.type = .ok held) :
    store.depositOf? ch value terminal = some ⟨terminal, ch, held⟩ := by
  rw [depositOf?, present, Option.bind_some, converted]
  rfl

/-- What a write puts where depends on the types of the channels only. -/
theorem depositsOf_congr
    (sameTypes : ∀ terminal,
      (other.place? terminal ch).map Value.type = (store.place? terminal ch).map Value.type)
    (terminals : List Terminal) :
    other.depositsOf terminals ch value = store.depositsOf terminals ch value := by
  have byType : ∀ (store : Store P) terminal, store.depositOf? ch value terminal =
      ((store.place? terminal ch).map Value.type).bind fun type =>
        (value.convert type).toOption.map fun held => ⟨terminal, ch, held⟩ := by
    intro store terminal
    rw [depositOf?, Option.bind_map]
    rfl
  refine List.filterMap_congr fun terminal _ => ?_
  rw [byType, byType, sameTypes]

/-- Where all channels are there and take the value as the same one, a write puts it into all of
them. -/
theorem depositsOf_eq_map {terminals : List Terminal}
    (each : ∀ terminal ∈ terminals, ∃ place, store.place? terminal ch = some place ∧
      value.convert place.type = .ok held) :
    store.depositsOf terminals ch value = terminals.map fun terminal => ⟨terminal, ch, held⟩ := by
  rw [depositsOf, ← List.filterMap_eq_map]
  refine List.filterMap_congr fun terminal listed => ?_
  obtain ⟨place, present, converted⟩ := each terminal listed
  exact depositOf?_of_converted present converted

end Store

/-! ## Stores with notices -/

section

variable [Processor P]

/-- A cell that has taken a value, and whose processor was then told of the variable, once. -/
def Cell.told (cell : Cell P) (var ch : Nat) (held : Value) : Cell P :=
  let bank := cell.bank.set var ch held
  ⟨Processor.notify cell.processor var bank, bank⟩

namespace Store

/-- Values are put into native channels that are there, in turn, and each time the processor of
the cell is told of it. Nothing else happens. -/
inductive Told : List Deposit → Store P → Store P → Prop where
  | nil (store : Store P) : Told [] store store
  | cons {deposit : Deposit} {deposits : List Deposit} {store after : Store P} {cell : Cell P}
      {place : Value} (found : store[deposit.terminal.slot]? = some cell)
      (there : cell.bank.get? deposit.terminal.var deposit.channel = some place)
      (others : Told deposits (store.set deposit.terminal.slot
        (cell.told deposit.terminal.var deposit.channel deposit.held)) after) :
      Told (deposit :: deposits) store after

variable {store middle after : Store P} {deposits : List Deposit}

theorem Told.append {further : List Deposit} (first : Told deposits store middle)
    (second : Told further middle after) : Told (deposits ++ further) store after := by
  induction first with
  | nil store => exact second
  | cons found there _ inductionHypothesis => exact .cons found there (inductionHypothesis second)

/-- Cells that nothing is put into stay as they are, and their processors hear of nothing. -/
theorem Told.unchanged (told : Told deposits store after) {slot : Nat}
    (outside : ∀ deposit ∈ deposits, deposit.terminal.slot ≠ slot) :
    after[slot]? = store[slot]? := by
  induction told with
  | nil store => rfl
  | cons _ _ _ inductionHypothesis =>
      rw [inductionHypothesis fun deposit listed =>
          outside deposit (List.mem_cons_of_mem _ listed),
        List.getElem?_set_ne (outside _ List.mem_cons_self)]

/-- Where no two values go into one cell, the processor of each of these cells hears once. -/
theorem Told.once (told : Told deposits store after)
    (apart : (deposits.map (·.terminal.slot)).Nodup) {deposit : Deposit}
    (listed : deposit ∈ deposits) :
    ∃ cell, store[deposit.terminal.slot]? = some cell ∧
      after[deposit.terminal.slot]? =
        some (cell.told deposit.terminal.var deposit.channel deposit.held) := by
  induction told with
  | nil store => cases listed
  | @cons head rest store after cell place found there others inductionHypothesis =>
      rw [List.map_cons, List.nodup_cons] at apart
      have different : ∀ other ∈ rest, other.terminal.slot ≠ head.terminal.slot :=
        fun other member same => apart.1 (List.mem_map.mpr ⟨other, member, same⟩)
      rcases List.mem_cons.mp listed with rfl | later
      · refine ⟨cell, found, ?_⟩
        rw [others.unchanged different,
          List.getElem?_set_self (List.getElem?_eq_some_iff.mp found).1]
      · obtain ⟨before, there, result⟩ := inductionHypothesis apart.2 later
        rw [List.getElem?_set_ne (different deposit later).symm] at there
        exact ⟨before, there, result⟩

/-! ## Writes that tell -/

theorem write_cons_told {ch : Nat} {value place held : Value} {head : Terminal}
    (rest : List Terminal) (present : store.place? head ch = some place)
    (converted : value.convert place.type = .ok held) :
    ∃ cell, store[head.slot]? = some cell ∧ cell.bank.get? head.var ch = some place ∧
      cell.write true head.var ch value = .ok (some (cell.told head.var ch held)) ∧
        write true ch value (head :: rest) store =
          let next := write true ch value rest (store.set head.slot (cell.told head.var ch held))
          (next.1, next.2.map fun _ => true) := by
  rw [place?_eq] at present
  obtain ⟨cell, found, there⟩ := Option.bind_eq_some_iff.mp present
  have stored : cell.write true head.var ch value = .ok (some (cell.told head.var ch held)) :=
    Cell.write_eq_ok.mpr (.inr ⟨place, held, _, there, converted, rfl, rfl⟩)
  refine ⟨cell, found, there, stored, ?_⟩
  rw [write, found]
  simp only [stored]

/-- A write that is not refused puts the value into every channel that is there, and tells of it
each time. -/
theorem told_write {ch : Nat} {value : Value} {terminals : List Terminal} {wrote : Bool}
    (taken : write true ch value terminals store = (after, .ok wrote)) :
    Told (store.depositsOf terminals ch value) store after := by
  induction terminals generalizing store wrote with
  | nil =>
      cases taken
      exact .nil _
  | cons head rest inductionHypothesis =>
      cases present : store.place? head ch with
      | none =>
          rw [write_cons_of_absent present] at taken
          rw [depositsOf, List.filterMap_cons_none (depositOf?_of_absent present)]
          exact inductionHypothesis taken
      | some place =>
          cases converted : value.convert place.type with
          | error fault =>
              rw [write_cons_of_refused present converted] at taken
              cases taken
          | ok held =>
              obtain ⟨cell, found, there, stored, isWrite⟩ :=
                write_cons_told rest present converted
              rw [isWrite] at taken
              obtain ⟨rfl, others⟩ := Prod.mk.inj taken
              obtain ⟨further, completed, -⟩ := map_eq_ok.mp others
              have onward := inductionHypothesis (Prod.ext rfl completed)
              -- places keep their types on the way, so the rest takes what it would have taken
              have first : Written (fun _ => True) store _ := .assign .refl trivial found stored
              rw [depositsOf_congr fun terminal => first.place?_type terminal ch] at onward
              rw [depositsOf,
                List.filterMap_cons_some (depositOf?_of_converted present converted)]
              exact .cons found there onward

end Store

end

/-! ## Cells behind an address -/

/-- No variable of a subnet forwards to one inner proc twice. -/
def Level.Separate (level : Level P) : Prop :=
  ∀ head procs order presets targets, Proc.subnet head procs order presets targets ∈ level.procs →
    ∀ addresses ∈ targets, (addresses.map (·.1)).Nodup

theorem Build.nodup_of_forwards {spec : ProcSpec} {procs : List (Proc P)}
    {declaration : Declaration} {found : List (Nat × Nat)}
    (forwarded : forwards spec procs declaration = .ok found) : (found.map (·.1)).Nodup := by
  unfold forwards at forwarded
  split at forwarded
  · cases forwarded
  · rename_i target isTarget
    dsimp only at forwarded
    split at forwarded
    · cases forwarded
    · cases forwarded
      have positions : procs.zipIdx.Pairwise fun first second => first.2 < second.2 := by
        rw [← List.pairwise_map, List.zipIdx_map_snd]
        exact List.pairwise_lt_range'
      have addressed : ∀ (entry : Proc P × Nat) (address : Nat × Nat),
          (if entry.1.label = target.proc then
            (entry.1.variableIndex? target.var).map fun var => (entry.2, var)
          else none) = some address → address.1 = entry.2 := by
        intro entry address isAddress
        split at isAddress
        · obtain ⟨var, -, rfl⟩ := Option.map_eq_some_iff.mp isAddress
          rfl
        · cases isAddress
      rw [List.Nodup, List.pairwise_map, List.pairwise_filterMap]
      refine positions.imp fun {first second} before address isFirst other isSecond => ?_
      rw [addressed first address isFirst, addressed second other isSecond]
      exact before.ne

/-- Different native variables behind a variable are in different cells. -/
theorem Proc.nodup_slots_terminals {level : Level P} (distinct : level.slots.Nodup)
    (separate : ∀ inside, level.Within inside → inside.Separate) {inside : Level P}
    (within : level.Within inside) {proc : Proc P} (member : proc ∈ inside.procs) (var : Nat) :
    ((proc.terminals var).map (·.slot)).Nodup := by
  induction proc using Proc.induction generalizing inside var with
  | native head slot => exact List.nodup_singleton slot
  | subnet head procs order presets targets inductionHypothesis =>
      have below : level.Within ⟨procs, order, presets⟩ :=
        within.trans (.inner member rfl (.self _))
      have innerDistinct : (slotsOf procs).Nodup := below.slots_sublist.nodup distinct
      have addressed : ((targets[var]?.getD []).map (·.1)).Nodup := by
        cases listed : targets[var]? with
        | none => exact List.nodup_nil
        | some addresses =>
            exact separate inside within head procs order presets targets member addresses
              (List.mem_of_getElem? listed)
      rw [Proc.terminals, List.map_flatMap, List.nodup_flatMap]
      constructor
      · intro address _
        rw [terminalsAt_eq]
        cases found : procs[address.1]? with
        | none => exact List.nodup_nil
        | some inner =>
            have isInner := List.mem_of_getElem? found
            exact inductionHypothesis inner isInner below isInner address.2
      · refine (List.pairwise_map.mp addressed).imp fun {first second} different => ?_
        intro slot inFirst inSecond
        obtain ⟨terminal, isTerminal, rfl⟩ := List.mem_map.mp inFirst
        obtain ⟨other, isOther, same⟩ := List.mem_map.mp inSecond
        obtain ⟨left, leftAt, isLeft⟩ := mem_terminalsAt.mp isTerminal
        obtain ⟨right, rightAt, isRight⟩ := mem_terminalsAt.mp isOther
        exact slot_disjoint innerDistinct different leftAt rightAt
          (Proc.slot_mem_of_terminal isLeft) (same ▸ Proc.slot_mem_of_terminal isRight)

theorem Build.separate_of_build [Processor P] {classes : ClassSet P} {template : Template}
    {timing : Timing} {devices : List Device} {network : Network P}
    (built : Network.build classes template timing devices = .ok network) {inside : Level P}
    (within : network.level.Within inside) : inside.Separate :=
  forall_within_of_buildNested (motive := Level.Separate)
    (fun depth template replica exposed store created middle level after assembled
        head procs order presets targets member addresses listed => by
      obtain ⟨spec, -, -, -, -, -, -, forwarded⟩ := assembled.subnet_of_mem member
      obtain ⟨declaration, -, found⟩ := exists_of_mem_mapM forwarded listed
      exact nodup_of_forwards found)
    (buildNested_of_build built).1 within

/-! ## Writes through addresses -/

namespace Network

variable [Processor P] [TypedProcessor P] [SteadyProcessor P] {classes : ClassSet P}
  {template : Template} {timing : Timing} {devices : List Device} {network : Network P}

/-- After a write to a variable of a proc, every native processor behind it has been told once, of
its own variable and with the value in its bank. Nothing else has changed. -/
structure Heard (reached : Network P) (id : VarId) (held : Value) (after : Network P) : Prop where
  someone : reached.terminals id.proc id.var ≠ []
  told : ∀ terminal ∈ reached.terminals id.proc id.var, ∃ cell,
    reached.store[terminal.slot]? = some cell ∧
      after.store[terminal.slot]? = some (cell.told terminal.var id.channel held)
  unchanged : ∀ slot, (∀ terminal ∈ reached.terminals id.proc id.var, terminal.slot ≠ slot) →
    after.store[slot]? = reached.store[slot]?
  sameElse : after = { reached with store := after.store }

/-- A write by an id that succeeds in some state of a built network is heard. -/
theorem heard_of_setById (lawful : classes.Lawful)
    (built : Network.build classes template timing devices = .ok network)
    (operations : List Operation) {id : VarId} {value : Value} {after : Network P} :
    let reached := network.performAll operations
    reached.setById id value = (after, .ok ()) → ∃ held, reached.Heard id held after := by
  intro reached succeeded
  have sameLevel : reached.level = network.level := network.level_performAll operations
  obtain ⟨store, written, rfl⟩ := setById_eq_ok succeeded
  obtain ⟨type, meets⟩ := exists_meetsType lawful built operations id.proc id.var id.channel
  obtain ⟨proc, found, sameTerminals⟩ :
      ∃ proc, network.level.procs[id.proc]? = some proc ∧
        reached.terminals id.proc id.var = proc.terminals id.var := by
    rw [terminals, sameLevel, Level.terminals] at written ⊢
    cases found : network.level.procs[id.proc]? with
    | none =>
        rw [terminalsAt_eq, found] at written
        cases written
    | some proc => exact ⟨proc, rfl, terminalsAt_of_getElem? found id.var⟩
  have member := List.mem_of_getElem? found
  have uniform : proc.Uniform reached.store.shape := by
    rw [network.shape_performAll operations]
    exact Build.uniform_of_build built member
  rw [sameTerminals] at written meets
  -- one of the channels is there, so all of them are, and they take the same value
  obtain ⟨first, isFirst, place, there⟩ : ∃ terminal ∈ proc.terminals id.var, ∃ place,
      reached.store.place? terminal id.channel = some place := by
    by_contra none
    rw [Store.write_of_absent true fun terminal listed =>
      Option.eq_none_iff_forall_ne_some.mpr fun place there =>
        none ⟨terminal, listed, place, there⟩] at written
    cases written
  have present := (uniform.exists_place? (uniform.lt_channelCount isFirst there)).2
  obtain ⟨held, converted, -⟩ := Store.exists_place?_of_taken meets present written isFirst
  have taken : ∀ terminal ∈ proc.terminals id.var, ∃ place,
      reached.store.place? terminal id.channel = some place ∧
        value.convert place.type = .ok held := fun terminal listed => by
    obtain ⟨place, there⟩ := present terminal listed
    exact ⟨place, there, meets terminal listed place there ▸ converted⟩
  have told := Store.told_write written
  rw [Store.depositsOf_eq_map taken] at told
  have apart := Proc.nodup_slots_terminals (Build.nodup_slots_of_build built (.self _))
    (fun inside within => Build.separate_of_build built within) (.self _) member id.var
  refine ⟨held, sameTerminals ▸ List.ne_nil_of_mem isFirst, fun terminal listed => ?_,
    fun slot outside => ?_, rfl⟩
  · rw [sameTerminals] at listed
    have deposited : (⟨terminal, id.channel, held⟩ : Deposit) ∈
        (proc.terminals id.var).map fun terminal => ⟨terminal, id.channel, held⟩ :=
      List.mem_map_of_mem listed
    refine told.once ?_ deposited
    rw [List.map_map]
    exact apart
  · rw [sameTerminals] at outside
    refine told.unchanged fun deposit listed => ?_
    obtain ⟨terminal, isTerminal, rfl⟩ := List.mem_map.mp listed
    exact outside terminal isTerminal

end Network

/-! ## What is not told -/

namespace Store

/-- The processors of all cells. -/
def processors (store : Store P) : List P := store.map (·.processor)

theorem processors_set {store : Store P} {slot : Nat} {cell changed : Cell P}
    (found : store[slot]? = some cell) (same : changed.processor = cell.processor) :
    processors (store.set slot changed) = store.processors := by
  obtain ⟨below, rfl⟩ := List.getElem?_eq_some_iff.mp found
  refine List.ext_getElem? fun other => ?_
  rw [processors, processors, List.map_set, same, List.getElem?_set]
  split
  · rename_i here
    subst here
    rw [List.length_map, if_pos below, List.getElem?_map, found, Option.map_some]
  · rfl

variable [Processor P]

/-- A write that is not to tell leaves all processors as they were, however far it gets. -/
theorem processors_write (ch : Nat) (value : Value) (terminals : List Terminal)
    (store : Store P) : processors (write false ch value terminals store).1 = store.processors := by
  fun_induction write false ch value terminals store with
  | case1 store => rfl
  | case2 terminal rest store absent inductionHypothesis => exact inductionHypothesis
  | case3 terminal rest store cell found fault refused => rfl
  | case4 terminal rest store cell found noChannel inductionHypothesis => exact inductionHypothesis
  | case5 terminal rest store cell found changed stored written outcome result
      inductionHypothesis =>
      rw [result] at inductionHypothesis
      refine inductionHypothesis.trans (processors_set found ?_)
      rcases Cell.write_eq_ok.mp stored with
        ⟨-, absent⟩ | ⟨place, held, processor, -, -, kept, isChanged⟩
      · cases absent
      · cases isChanged
        exact kept

theorem processors_writeChannels (terminals : List Terminal) (ch : Nat) (values : List Value)
    (store : Store P) :
    processors (writeChannels terminals ch values store).1 = store.processors := by
  fun_induction writeChannels terminals ch values store with
  | case1 ch store => rfl
  | case2 ch value rest store written fault result =>
      have first := processors_write ch value terminals store
      rwa [result] at first
  | case3 ch value rest store written present result inductionHypothesis =>
      have first := processors_write ch value terminals store
      rw [result] at first
      exact inductionHypothesis.trans first

end Store

/-- A connection copies its values without telling anyone. -/
theorem Signals.processors_copy [Processor P] (signals : Signals P)
    (proc var : String) (source destination : List Terminal) :
    (signals.perform (.copy proc var source destination)).1.store.processors =
      signals.store.processors :=
  Store.processors_writeChannels destination 0 (signals.store.channels source) signals.store

namespace Build

variable [Processor P]

theorem processors_writeLiteral {proc : Proc P} {var : Nat} {literal : Literal}
    {channels : List Nat} {store after : Store P}
    (completed : writeLiteral proc var literal channels store = .ok after) :
    after.processors = store.processors := by
  fun_induction writeLiteral proc var literal channels store with
  | case1 store =>
      cases completed
      rfl
  | case2 store ch rest absent inductionHypothesis => exact inductionHypothesis completed
  | case3 => cases completed
  | case4 => cases completed
  | case5 ch rest store item found type value converted written present result
      inductionHypothesis =>
      have first := Store.processors_write ch value (proc.terminals var) store
      rw [result] at first
      exact (inductionHypothesis completed).trans first

/-- The defaults and arguments of a subnet are written without telling anyone. -/
theorem processors_writeSubnet {spec : ProcSpec} {proc : Proc P} {store after : Store P}
    (completed : writeSubnet spec proc store = .ok after) :
    after.processors = store.processors := by
  obtain ⟨middle, initials, arguments⟩ := bind_eq_ok.mp completed
  have initialized : middle.processors = store.processors :=
    foldlM_keeps (motive := fun now => now.processors = store.processors) rfl
      (fun item _ before next same written => (processors_writeLiteral written).trans same) initials
  refine foldlM_keeps (motive := fun now => now.processors = store.processors) initialized
    (fun item _ before next same written => ?_) arguments
  dsimp only at written
  split at written
  · exact (processors_writeLiteral written).trans same
  · cases written

end Build

end SignalNet
