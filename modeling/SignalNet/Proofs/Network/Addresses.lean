import SignalNet.Proofs.Native.Steadiness
import SignalNet.Proofs.Network.TypeSoundness

/-!
Contract: addresses stay good for the life of a network.

An address is resolved against the procs of a network and the shapes of its banks. No
operation changes the procs, and assignments and steps keep the shapes. So the same address
resolves to the same positions in every later state, and there is a value behind them.

Owns: `Store.shape` and what keeps it, resolution as a function of the procs and the shapes,
and the law of resolved addresses (`resolved_ids_last`).
-/

set_option autoImplicit false

namespace SignalNet

variable {P : Type}

/-! ## Shapes of stores -/

namespace Store

/-- The shapes of the banks of all cells. -/
def shape (store : Store P) : List (List VariableShape) := store.map fun cell => cell.bank.shape

/-- The shape of the variable that a terminal leads to. -/
def shapeAt (store : Store P) (terminal : Terminal) : Option VariableShape :=
  (store.shape[terminal.slot]?).bind (·[terminal.var]?)

theorem isSome_place? (store : Store P) (terminal : Terminal) (ch : Nat) :
    (store.place? terminal ch).isSome =
      (store.shapeAt terminal).any fun entry => ch < entry.channels := by
  rw [place?_eq, shapeAt, shape, List.getElem?_map]
  cases store[terminal.slot]? with
  | none => rfl
  | some cell => exact cell.bank.isSome_get? terminal.var ch

theorem channelCount_cons (store : Store P) (terminal : Terminal) (rest : List Terminal) :
    store.channelCount (terminal :: rest) = ((store.shapeAt terminal).map (·.channels)).getD 0 := by
  rw [channelCount, channels, bank?, shapeAt, shape, List.getElem?_map]
  cases store[terminal.slot]? with
  | none => rfl
  | some cell =>
      simp only [Option.map_some, Option.bind_some, Bank.shape, List.getElem?_map]
      cases cell.bank.vars[terminal.var]? <;> rfl

theorem channelCount_congr {left right : Store P} (same : left.shape = right.shape)
    (terminals : List Terminal) : left.channelCount terminals = right.channelCount terminals := by
  cases terminals with
  | nil => rfl
  | cons terminal rest => rw [channelCount_cons, channelCount_cons, shapeAt, shapeAt, same]

theorem shape_set {store : Store P} {slot : Nat} {cell changed : Cell P}
    (found : store[slot]? = some cell) (same : changed.bank.shape = cell.bank.shape) :
    shape (store.set slot changed) = store.shape := by
  obtain ⟨below, rfl⟩ := List.getElem?_eq_some_iff.mp found
  have mappedBelow : slot < (List.map (fun cell => cell.bank.shape) store).length := by
    rwa [List.length_map]
  rw [shape, shape, List.map_set, same, ← List.getElem_map (fun cell : Cell P => cell.bank.shape)]
  exact List.set_getElem_self mappedBelow

theorem Written.shape_eq [Processor P] {reached : Terminal → Prop} {start after : Store P}
    (written : Written reached start after) : after.shape = start.shape := by
  induction written with
  | refl => rfl
  | assign _ _ found stored inductionHypothesis =>
      rw [← inductionHypothesis]
      obtain ⟨stored?, assigned, isChanged⟩ := map_eq_ok.mp stored
      obtain ⟨bank, rfl, rfl⟩ := Option.map_eq_some_iff.mp isChanged
      exact shape_set found (Bank.filled_of_assign assigned).shape_eq

/-- Assignments that change no place change no bank. -/
theorem Written.bank?_eq [Processor P] {reached : Terminal → Prop} {start after : Store P}
    (written : Written reached start after)
    (places : ∀ terminal ch, after.place? terminal ch = start.place? terminal ch) (slot : Nat) :
    after.bank? slot = start.bank? slot := by
  have shapes : (after.bank? slot).map Bank.shape = (start.bank? slot).map Bank.shape := by
    have sameShape := congrArg (·[slot]?) written.shape_eq
    simpa [Store.shape, bank?, Function.comp_def] using sameShape
  have values := fun var ch => places ⟨slot, var⟩ ch
  simp only [place?] at values
  cases before : start.bank? slot with
  | none =>
      rw [before, Option.map_none, Option.map_eq_none_iff] at shapes
      exact shapes
  | some bank =>
      rw [before, Option.map_some, Option.map_eq_some_iff] at shapes
      obtain ⟨other, there, sameShape⟩ := shapes
      rw [there, before] at values
      rw [there, Bank.eq_of_shape sameShape values]

end Store

theorem Signals.shape_step [Processor P] [SteadyProcessor P] (signals : Signals P)
    (slot : Nat) (device : Option Nat) :
    (signals.step slot device).1.store.shape = signals.store.shape := by
  unfold step
  split
  · rfl
  · rename_i found
    exact Store.shape_set found (SteadyProcessor.shape_step _ _ _ _)

namespace Network

theorem shape_performAll [Processor P] [SteadyProcessor P] (network : Network P)
    (operations : List Operation) :
    (network.performAll operations).store.shape = network.store.shape :=
  Network.performAll_keeps (motive := fun store => store.shape = network.store.shape)
    (fun _ _ before written => written.shape_eq.trans before)
    (fun signals slot device before =>
      (signals.shape_step slot device).trans before)
    network operations rfl

/-! ## Resolution -/

/-- A resolved id is that of a channel of a variable of an accepted proc. -/
theorem resolveIn_eq_ok {network : Network P} {accept : Proc P → Bool} {name var : String}
    {channel : Nat} {id : VarId} (resolved : network.resolveIn accept name var channel = .ok id) :
    ∃ proc, network.proc? id.proc = some proc ∧ accept proc = true ∧
      proc.variableIndex? var = some id.var ∧ id.channel = channel ∧
        channel < network.channelsAt id.proc id.var := by
  unfold resolveIn at resolved
  cases position? : network.level.procs.findIdx? accept with
  | none =>
      rw [position?] at resolved
      cases resolved
  | some position =>
      obtain ⟨below, accepted, -⟩ := List.findIdx?_eq_some_iff_getElem.mp position?
      have found : network.proc? position = some network.level.procs[position] :=
        List.getElem?_eq_getElem below
      simp only [position?, found, resolve] at resolved
      cases index? : network.level.procs[position].variableIndex? var with
      | none =>
          rw [index?] at resolved
          cases resolved
      | some index =>
          simp only [index?] at resolved
          split at resolved
          · rename_i present
            cases resolved
            exact ⟨_, found, accepted, index?, rfl, present⟩
          · cases resolved

theorem exists_valueById {network : Network P} {id : VarId}
    (present : id.channel < network.channelsAt id.proc id.var) :
    ∃ value, network.valueById id = .ok value := by
  obtain ⟨value, held⟩ :=
    Option.isSome_iff_exists.mp ((network.store.lt_channelCount_iff _ _).mp present)
  refine ⟨value, ?_⟩
  rw [valueById, held]

/-- Resolution depends on the procs and the shapes only. -/
theorem resolveIn_congr {left right : Network P} (sameLevel : left.level = right.level)
    (sameShape : left.store.shape = right.store.shape) (accept : Proc P → Bool)
    (name var : String) (channel : Nat) :
    left.resolveIn accept name var channel = right.resolveIn accept name var channel := by
  have sameCount : left.channelsAt = right.channelsAt := by
    funext position var
    rw [channelsAt, channelsAt, terminals, terminals, sameLevel, Store.channelCount_congr sameShape]
  have sameProcs : left.proc? = right.proc? := by
    funext position
    rw [proc?, proc?, sameLevel]
  simp only [resolveIn, resolve, sameLevel, sameProcs, sameCount]

variable [Processor P] [SteadyProcessor P]

theorem resolveIn_performAll (network : Network P) (operations : List Operation)
    (accept : Proc P → Bool) (name var : String) (channel : Nat) :
    (network.performAll operations).resolveIn accept name var channel =
      network.resolveIn accept name var channel :=
  resolveIn_congr (network.level_performAll operations) (network.shape_performAll operations)
    accept name var channel

/-- A resolved id still resolves after any operations, and there is a value behind it. -/
theorem resolved_performAll {network : Network P} {accept : Proc P → Bool} {name var : String}
    {channel : Nat} {id : VarId} (resolved : network.resolveIn accept name var channel = .ok id)
    (operations : List Operation) :
    (network.performAll operations).resolveIn accept name var channel = .ok id ∧
      ∃ value, (network.performAll operations).valueById id = .ok value := by
  have again := (network.resolveIn_performAll operations accept name var channel).trans resolved
  obtain ⟨proc, -, -, -, rfl, present⟩ := resolveIn_eq_ok again
  exact ⟨again, exists_valueById present⟩

/-- Where the steps of processors keep shapes, as those of all built-in ones do, an id that an
address resolved to in some state of a network is good in every later state, whatever was
done in between and whether it failed or not: the address still resolves to it, there is a
value behind it, and reading by the address gives that value. The same holds of the
addresses of voices. -/
theorem resolved_ids_last (network : Network P) (earlier later : List Operation) :
    let found := network.performAll earlier
    let now := found.performAll later
    (∀ label var channel id, found.varId label var channel = .ok id →
        now.varId label var channel = .ok id ∧
          ∃ value, now.valueById id = .ok value ∧ now.value label var channel = .ok value) ∧
      ∀ label voice var channel id, found.voiceVarId label voice var channel = .ok id →
        now.voiceVarId label voice var channel = .ok id ∧
          ∃ value, now.valueById id = .ok value ∧
            (now.voiceVarId label voice var channel).bind now.valueById = .ok value := by
  intro found now
  constructor
  · intro label var channel id resolved
    obtain ⟨again, value, held⟩ := resolved_performAll resolved later
    have sameId : now.varId label var channel = .ok id := again
    refine ⟨sameId, value, held, ?_⟩
    rw [Network.value, sameId]
    exact held
  · intro label voice var channel id resolved
    obtain ⟨again, value, held⟩ := resolved_performAll resolved later
    have sameId : now.voiceVarId label voice var channel = .ok id := again
    refine ⟨sameId, value, held, ?_⟩
    rw [sameId]
    exact held

/-- The id of the second voice, found after a write, is good after a cycle, a refused write
and an unknown preset. -/
theorem voices_ids_last :
    ∃ network : Network Builtin,
      Network.build Voices.classes Voices.template .standard [] = .ok network ∧
        let found := network.performAll [.set "base" "value" 0 (.double 2)]
        let now := found.performAll
          [.cycle, .set "voice" "level" 0 (.string "loud"), .preset "none" none]
        found.voiceVarId "voice" 1 "level" 0 = .ok ⟨2, 0, 0⟩ ∧
          now.voiceVarId "voice" 1 "level" 0 = .ok ⟨2, 0, 0⟩ ∧
            ∃ value, now.valueById ⟨2, 0, 0⟩ = .ok value ∧
              (now.voiceVarId "voice" 1 "level" 0).bind now.valueById = .ok value := by
  have built : Network.build Voices.classes Voices.template .standard [] = .ok _ := rfl
  refine ⟨_, built, rfl, ?_⟩
  exact (resolved_ids_last _ _ _).2 "voice" 1 "level" 0 ⟨2, 0, 0⟩ rfl

end Network

end SignalNet
