import SignalNet.Proofs.Network.Closed
import SignalNet.Proofs.Network.Replicas

/-!
Contract: operations that give up where a position is out of range.

The operations of a network follow positions: through the order of execution, along connections,
from a variable of a subnet to inner variables, from an id to its proc and to the declaration that a
fault names. Where nothing is at a position, they fall back on something harmless. Each operation
has a checked version here, which does the same and answers nothing at all in that case. A checked
operation that answers has therefore met no position out of range.

Owns: the checked operations, up to `Network.perform?`, and that where everything is closed, what a
cycle and a preset follow is all there.
-/

set_option autoImplicit false

namespace SignalNet

variable {P : Type}

/-! ## Checked structure -/

mutual

/-- The native variables that a variable leads to; none if a target is out of range. -/
def Proc.terminals? : Proc P → Nat → Option (List Terminal)
  | .native _ slot, var => some [⟨slot, var⟩]
  | .subnet _ procs _ _ targets, var =>
      ((targets[var]?.getD []).mapM fun target => terminalsAt? procs target.1 target.2).map
        List.flatten

def terminalsAt? : List (Proc P) → Nat → Nat → Option (List Terminal)
  | [], _, _ => none
  | proc :: _, 0, var => proc.terminals? var
  | _ :: rest, position + 1, var => terminalsAt? rest position var

end

/-- The copy that a connection of the proc at a position asks for. Source and destination have to
be different procs, since one is read while the other is written. -/
def Connection.copy? (procs : List (Proc P)) (position : Nat) (proc : Proc P)
    (connection : Connection) : Option Instruction :=
  if connection.sourceProc = position then none
  else do
    let source ← procs[connection.sourceProc]?
    let declaration ← proc.declaration? connection.destination
    let given ← source.terminals? connection.sourceVariable
    let wanted ← proc.terminals? connection.destination
    return .copy proc.label declaration.label given wanted

/-- What a cycle does for the proc at a position, from what the procs do themselves. -/
def visit? (procs : List (Proc P)) (programs : List (Option (List Instruction)))
    (position : Nat) : Option (List Instruction) := do
  let proc ← procs[position]?
  let copies ← proc.head.inputs.mapM (·.copy? procs position proc)
  let own ← (programs[position]?).join
  return copies ++ own

mutual

def Proc.program? : Proc P → Option (List Instruction)
  | .native head slot => some [.step head.label head.description.label slot head.device]
  | .subnet _ procs order _ _ =>
      let inner := programs? procs
      (order.mapM (visit? procs inner)).map List.flatten

def programs? : List (Proc P) → List (Option (List Instruction))
  | [] => []
  | proc :: rest => proc.program? :: programs? rest

end

namespace Level

def program? (level : Level P) : Option (List Instruction) :=
  (level.order.mapM (visit? level.procs (programs? level.procs))).map List.flatten

def executionOrder? (level : Level P) : Option (List String) :=
  level.order.mapM fun position => (level.procs[position]?).map (·.label)

end Level

/-! ## Checked presets -/

namespace Blend

variable [Processor P]

def applyVariable? (proc : Proc P) (bodies : WeightedBodies) (label : String)
    (store : Store P) : Option (Store P × List PresetFault) :=
  match proc.variableIndex? label with
  | none => some (store, [.unknownVariable])
  | some var => do
      let declaration ← proc.declaration? var
      if declaration.type.isSignal then return (store, [.signalVariable declaration.type])
      else
        let terminals ← proc.terminals? var
        let count := store.channelCount terminals
        let (written, faults) :=
          applyChannels declaration.type label terminals bodies (List.range count) store
        return (written, surplus label count bodies ++ faults.map .value)

def applyVariables? (proc : Proc P) (bodies : WeightedBodies) :
    List String → Store P → Option (Store P × List PresetFailure)
  | [], store => some (store, [])
  | label :: rest, store => do
      let (written, faults) ← applyVariable? proc bodies label store
      let (written, failures) ← applyVariables? proc bodies rest written
      return (written, faults.map (PresetFailure.mk proc.label label) ++ failures)

def applySite? (weights : Weights) (replica : Option Nat) (site : Site P) (store : Store P) :
    Option (Store P × List PresetFailure) :=
  if targets replica site then do
    let bodies := bodies site weights
    let (written, failures) ← applyVariables? site.proc bodies (mentionedLabels bodies) store
    return (written, unresolved site weights ++ failures)
  else some (store, [])

def applySites? (weights : Weights) (replica : Option Nat) :
    List (Site P) → Store P → Option (Store P × List PresetFailure)
  | [], store => some (store, [])
  | site :: rest, store => do
      let (written, failures) ← applySite? weights replica site store
      let (written, further) ← applySites? weights replica rest written
      return (written, failures ++ further)

end Blend

/-! ## Checked operations -/

namespace Network

/-- The fault of a value for a channel, which names the proc and the variable. -/
def invalid? (network : Network P) (id : VarId) (fault : ValueError) : Option NetworkError := do
  let proc ← network.proc? id.proc
  let declaration ← proc.declaration? id.var
  return .invalidValue proc.label declaration.label fault

def valueById? (network : Network P) (id : VarId) : Option (Except NetworkError Value) :=
  match network.proc? id.proc with
  | none => some (.error .invalidId)
  | some proc => do
      let terminals ← proc.terminals? id.var
      match network.store.value? terminals id.channel with
      | some value => return .ok value
      | none => return .error .invalidId

def getById? (network : Network P) (id : VarId) (type : ValueType) :
    Option (Except NetworkError Value) := do
  match ← network.valueById? id with
  | .error fault => return .error fault
  | .ok value =>
      match value.convert type with
      | .ok converted => return .ok converted
      | .error fault => return .error (← network.invalid? id fault)

/-- Resolve an address in the first proc that is accepted; `name` is its name. -/
def resolveIn? (network : Network P) (accept : Proc P → Bool) (name var : String)
    (channel : Nat) : Option (Except NetworkError VarId) :=
  match network.level.procs.findIdx? accept with
  | none => some (.error (.unknownProc name))
  | some position => do
      let proc ← network.proc? position
      match proc.variableIndex? var with
      | none => return .error (.unknownVariable proc.label var)
      | some index =>
          let count := network.store.channelCount (← proc.terminals? index)
          if channel < count then return .ok ⟨position, index, channel⟩
          else return .error (.channelOutOfRange proc.label var channel count)

def varId? (network : Network P) (label var : String) (channel : Nat) :
    Option (Except NetworkError VarId) :=
  network.resolveIn? (·.label == label) label var channel

def voiceVarId? (network : Network P) (label : String) (voice : Nat) (var : String)
    (channel : Nat) : Option (Except NetworkError VarId) :=
  network.resolveIn? (fun proc => proc.label == label && proc.head.replica == some voice)
    (label ++ "[" ++ toString voice ++ "]") var channel

def value? (network : Network P) (label var : String) (channel : Nat) :
    Option (Except NetworkError Value) := do
  match ← network.varId? label var channel with
  | .error fault => return .error fault
  | .ok id => network.valueById? id

def get? (network : Network P) (label var : String) (channel : Nat) (type : ValueType) :
    Option (Except NetworkError Value) := do
  match ← network.varId? label var channel with
  | .error fault => return .error fault
  | .ok id => network.getById? id type

def channelCount? (network : Network P) (label var : String) :
    Option (Except NetworkError Nat) := do
  match ← network.varId? label var 0 with
  | .error fault => return .error fault
  | .ok id =>
      let proc ← network.proc? id.proc
      return .ok (network.store.channelCount (← proc.terminals? id.var))

variable [Processor P]

/-- Advance a network by one cycle that carries out a given program. -/
def cycleAlong (network : Network P) (program : List Instruction) :
    Network P × Except CycleError StepStatus :=
  match Signals.run .proceed program network.signals with
  | (signals, .ok status) =>
      ({ network with
          store := signals.store
          devices := signals.devices
          cycleIndex := network.cycleIndex + 1 }, .ok status)
  | (signals, .error fault) =>
      ({ network with store := signals.store, devices := signals.devices }, .error fault)

def cycle? (network : Network P) : Option (Network P × Except CycleError StepStatus) :=
  network.level.program?.map network.cycleAlong

def setById? (network : Network P) (id : VarId) (value : Value) :
    Option (Network P × Except NetworkError Unit) :=
  match network.proc? id.proc with
  | none => some (network, .error .invalidId)
  | some proc => do
      let terminals ← proc.terminals? id.var
      match network.store.write true id.channel value terminals with
      | (store, .ok true) => return ({ network with store }, .ok ())
      | (store, .ok false) => return ({ network with store }, .error .invalidId)
      | (store, .error fault) =>
          return ({ network with store }, .error (← network.invalid? id fault))

def set? (network : Network P) (label var : String) (channel : Nat) (value : Value) :
    Option (Network P × Except NetworkError Unit) := do
  match ← network.varId? label var channel with
  | .error fault => return (network, .error fault)
  | .ok id => network.setById? id value

def applyWeights? (network : Network P) (weights : Weights) (replica : Option Nat)
    (name : String) : Option (Network P × Except PresetError Unit) :=
  match weights.find? fun entry => !network.hasPreset entry.1 with
  | some (missing, _) => some (network, .error (.unknownPreset missing))
  | none => do
      let (store, failures) ←
        Blend.applySites? weights replica network.level.sites network.store
      return ({ network with store }, Blend.outcome name failures)

def applyPreset? (network : Network P) (label : String) (replica : Option Nat) :
    Option (Network P × Except PresetError Unit) :=
  network.applyWeights? [(label, 1)] replica label

def applyDualPreset? (network : Network P) (first second : String) (coefficient : Float)
    (replica : Option Nat) : Option (Network P × Except PresetError Unit) :=
  if PresetSelector.isCoefficient coefficient then
    network.applyWeights? [(first, 1 - coefficient), (second, coefficient)] replica
      (first ++ "|" ++ second)
  else some (network, .error (.invalidCoefficient coefficient))

def applySelector? (network : Network P) (selector : PresetSelector) (replica : Option Nat)
    (source : WordSource) : Option (Network P × Except PresetError Unit) :=
  match (selector.resolve source).1 with
  | .error fault => some (network, .error fault)
  | .ok weights =>
      network.applyWeights? weights replica (String.intercalate "|" (weights.map (·.1)))

/-- What an operation leaves behind, and what the host is told. -/
def perform? (network : Network P) : Operation → Option (Network P × Answer)
  | .cycle => network.cycle?.map fun (after, outcome) => (after, .cycle outcome)
  | .set label var channel value =>
      (network.set? label var channel value).map fun (after, outcome) => (after, .write outcome)
  | .setById id value =>
      (network.setById? id value).map fun (after, outcome) => (after, .write outcome)
  | .preset label replica =>
      (network.applyPreset? label replica).map fun (after, outcome) => (after, .preset outcome)
  | .dualPreset first second coefficient replica =>
      (network.applyDualPreset? first second coefficient replica).map fun (after, outcome) =>
        (after, .preset outcome)
  | .multiPreset selector replica source =>
      (network.applySelector? selector replica source).map fun (after, outcome) =>
        (after, .preset outcome)
  | .exchange position device =>
      some ({ network with devices := network.devices.set position device }, .done)

end Network

/-! ## Closed structure -/

theorem terminalsAt?_eq (procs : List (Proc P)) (position var : Nat) :
    terminalsAt? procs position var =
      (procs[position]?).bind fun proc => proc.terminals? var := by
  induction procs generalizing position with
  | nil => rw [terminalsAt?, List.getElem?_nil, Option.bind_none]
  | cons proc rest inductionHypothesis =>
      cases position with
      | zero => rw [terminalsAt?, List.getElem?_cons_zero, Option.bind_some]
      | succ position => rw [terminalsAt?, inductionHypothesis, List.getElem?_cons_succ]

theorem programs?_eq_map (procs : List (Proc P)) : programs? procs = procs.map Proc.program? := by
  induction procs with
  | nil => rfl
  | cons proc rest inductionHypothesis => rw [programs?, List.map_cons, inductionHypothesis]

namespace Level.ClosedWithin

variable {level : Level P}

/-- Following the targets of a variable never leaves the tree. -/
theorem terminals?_eq (closed : level.ClosedWithin) {proc : Proc P}
    (member : proc ∈ level.procs) (var : Nat) :
    proc.terminals? var = some (proc.terminals var) := by
  induction proc generalizing level var with
  | native head slot => rw [Proc.terminals?, Proc.terminals]
  | subnet head procs order presets targets inductionHypothesis =>
      obtain ⟨-, each⟩ :=
        (closed level (.self level)).forwards head procs order presets targets member
      have inner := closed.inner member rfl
      have collected : ((targets[var]?.getD []).mapM fun target =>
            terminalsAt? procs target.1 target.2) =
          some ((targets[var]?.getD []).map fun target => terminalsAt procs target.1 target.2) := by
        apply mapM_eq_some
        intro address listed
        cases isTarget : targets[var]? with
        | none =>
            rw [isTarget] at listed
            cases listed
        | some addresses =>
            rw [isTarget, Option.getD_some] at listed
            obtain ⟨innerProc, found, -⟩ :=
              (each addresses (List.mem_of_getElem? isTarget)).inner address listed
            have isInner := List.mem_of_getElem? found
            rw [terminalsAt?_eq, found, Option.bind_some,
              inductionHypothesis innerProc isInner inner isInner, terminalsAt_of_getElem? found]
      rw [Proc.terminals?, collected, Option.map_some, Proc.terminals, List.flatMap_def]

theorem copy?_eq (closed : level.ClosedWithin) {position : Nat} {proc : Proc P}
    (found : level.procs[position]? = some proc) {connection : Connection}
    (isInput : connection ∈ proc.head.inputs) :
    connection.copy? level.procs position proc =
      some (.copy proc.label (proc.variableLabel connection.destination)
        (terminalsAt level.procs connection.sourceProc connection.sourceVariable)
        (proc.terminals connection.destination)) := by
  obtain ⟨other, declared, source, isSource, -⟩ :=
    (closed level (.self level)).connections position proc found connection isInput
  obtain ⟨declaration, isDeclared⟩ := Option.isSome_iff_exists.mp declared
  rw [Connection.copy?, if_neg other, isSource, isDeclared,
    terminalsAt_of_getElem? isSource, Proc.variableLabel, isDeclared]
  simp only [Option.bind_eq_bind, Option.bind_some, Option.map_some, Option.getD_some,
    closed.terminals?_eq (List.mem_of_getElem? isSource),
    closed.terminals?_eq (List.mem_of_getElem? found)]
  rfl

theorem visit?_eq (closed : level.ClosedWithin)
    (programs : ∀ proc ∈ level.procs, proc.program? = some proc.program) {position : Nat}
    (below : position < level.procs.length) :
    visit? level.procs (programs? level.procs) position = some (level.block position) := by
  have found : level.procs[position]? = some level.procs[position] :=
    List.getElem?_eq_getElem below
  have copies : level.procs[position].head.inputs.mapM
      (·.copy? level.procs position level.procs[position]) =
        some (level.procs[position].copies level.procs) :=
    mapM_eq_some fun connection isInput => closed.copy?_eq found isInput
  rw [visit?, programs?_eq_map, List.getElem?_map, found, Level.block_of_getElem? found]
  simp only [Option.bind_eq_bind, Option.bind_some, Option.map_some, copies,
    programs _ (List.getElem_mem below), Option.join_some]
  rfl

theorem visits?_eq (closed : level.ClosedWithin)
    (programs : ∀ proc ∈ level.procs, proc.program? = some proc.program) :
    (level.order.mapM (visit? level.procs (programs? level.procs))).map List.flatten =
      some level.program := by
  have isOrder := (closed level (.self level)).order_perm
  have visits : level.order.mapM (visit? level.procs (programs? level.procs)) =
      some (level.order.map level.block) := by
    apply mapM_eq_some
    intro position member
    exact closed.visit?_eq programs (List.mem_range.mp (isOrder.mem_iff.mp member))
  rw [visits, Option.map_some, Level.program_eq_flatMap, List.flatMap_def]

theorem proc_program?_eq (closed : level.ClosedWithin) {proc : Proc P}
    (member : proc ∈ level.procs) : proc.program? = some proc.program := by
  induction proc generalizing level with
  | native head slot => rw [Proc.program?, Proc.program]
  | subnet head procs order presets targets inductionHypothesis =>
      have inner := closed.inner member rfl
      rw [Proc.program?, Proc.program_of_inner? rfl]
      exact inner.visits?_eq fun proc isInner => inductionHypothesis proc isInner inner isInner

/-- All instructions of a cycle can be made out. -/
theorem program?_eq (closed : level.ClosedWithin) : level.program? = some level.program :=
  closed.visits?_eq fun _ member => closed.proc_program?_eq member

theorem executionOrder?_eq (closed : level.ClosedWithin) :
    level.executionOrder? = some level.executionOrder := by
  have isOrder := (closed level (.self level)).order_perm
  apply mapM_eq_some
  intro position member
  have below : position < level.procs.length := List.mem_range.mp (isOrder.mem_iff.mp member)
  rw [List.getElem?_eq_getElem below, Option.map_some, Option.getD_some]

end Level.ClosedWithin

/-! ## Presets on closed structure -/

namespace Blend

variable [Processor P] {level : Level P}

theorem applyVariable?_eq (closed : level.ClosedWithin) {proc : Proc P}
    (member : proc ∈ level.procs) (bodies : WeightedBodies) (label : String) (store : Store P) :
    applyVariable? proc bodies label store = some (applyVariable proc bodies label store) := by
  unfold applyVariable? applyVariable
  cases indexed : proc.variableIndex? label with
  | none => rfl
  | some var =>
      obtain ⟨declaration, isDeclared⟩ :=
        Option.isSome_iff_exists.mp (Proc.declaration?_isSome indexed)
      simp only [isDeclared, Option.bind_eq_bind, Option.bind_some, Option.map_some,
        Option.getD_some, closed.terminals?_eq member]
      split <;> rfl

theorem applyVariables?_eq (closed : level.ClosedWithin) {proc : Proc P}
    (member : proc ∈ level.procs) (bodies : WeightedBodies) (labels : List String)
    (store : Store P) :
    applyVariables? proc bodies labels store = some (applyVariables proc bodies labels store) := by
  induction labels generalizing store with
  | nil => rfl
  | cons label rest inductionHypothesis =>
      rw [applyVariables?, applyVariables, applyVariable?_eq closed member, Option.bind_eq_bind,
        Option.bind_some]
      obtain ⟨written, faults⟩ := applyVariable proc bodies label store
      dsimp only
      rw [inductionHypothesis]
      rfl

theorem applySite?_eq (weights : Weights) (replica : Option Nat) {site : Site P}
    (closed : level.ClosedWithin) (member : site.proc ∈ level.procs) (store : Store P) :
    applySite? weights replica site store = some (applySite weights replica site store) := by
  unfold applySite? applySite
  split
  · dsimp only
    rw [applyVariables?_eq closed member]
    rfl
  · rfl

theorem applySites?_eq (weights : Weights) (replica : Option Nat) {sites : List (Site P)}
    (owned : ∀ site ∈ sites, ∃ around : Level P, around.ClosedWithin ∧ site.proc ∈ around.procs)
    (store : Store P) :
    applySites? weights replica sites store = some (applySites weights replica sites store) := by
  induction sites generalizing store with
  | nil => rfl
  | cons site rest inductionHypothesis =>
      obtain ⟨around, closed, member⟩ := owned site List.mem_cons_self
      have others := inductionHypothesis fun other listed =>
        owned other (List.mem_cons_of_mem site listed)
      rw [applySites?, applySites, applySite?_eq weights replica closed member,
        Option.bind_eq_bind, Option.bind_some]
      obtain ⟨written, failures⟩ := applySite weights replica site store
      dsimp only
      rw [others]
      rfl

end Blend

end SignalNet
