import SignalNet.Network.Build

/-!
Contract: advancing a network by one cycle.

The tree of a network is flattened into a straight list of instructions: before a
proc is stepped, its connections are copied. All steps of a cycle share one context,
which a step may change for those behind it. The list stops at the first fault and
keeps what was done before. A cycle counts only if it was completed.

Owns: instructions, their effect, and the cycle of a whole network.
-/

set_option autoImplicit false

namespace SignalNet

/-- One thing to do in a cycle. -/
inductive Instruction where
  /-- Copy the channels of a source to the terminals of an input. -/
  | copy (proc var : String) (source destination : List Terminal)
  /-- Step a native proc. -/
  | step (proc className : String) (slot : Nat) (device : Option Nat)
deriving DecidableEq, Repr

/-- The copies that the connections of a proc ask for. -/
def Proc.copies {P : Type} (procs : List (Proc P)) (proc : Proc P) : List Instruction :=
  proc.head.inputs.map fun connection =>
    .copy proc.label (proc.variableLabel connection.destination)
      (terminalsAt procs connection.sourceProc connection.sourceVariable)
      (proc.terminals connection.destination)

def copiesAt {P : Type} (procs : List (Proc P)) (position : Nat) : List Instruction :=
  ((procs[position]?).map (Proc.copies procs)).getD []

mutual

/-- What one proc does in a cycle, once its inputs are there. -/
def Proc.program {P : Type} : Proc P → List Instruction
  | .native head slot => [.step head.label head.description.label slot head.device]
  | .subnet _ procs order _ _ =>
      let inner := programs procs
      order.flatMap fun position => copiesAt procs position ++ (inner[position]?).getD []

def programs {P : Type} : List (Proc P) → List (List Instruction)
  | [] => []
  | proc :: rest => proc.program :: programs rest

end

/-- What a network does in a cycle. -/
def Level.program {P : Type} (level : Level P) : List Instruction :=
  let inner := programs level.procs
  level.order.flatMap fun position =>
    copiesAt level.procs position ++ (inner[position]?).getD []

/-- What a cycle works on: the cells, the devices, and the context of its steps. -/
structure Signals (P : Type) where
  store : Store P
  devices : List Device
  context : CycleContext

namespace Signals

variable {P : Type} [Processor P]

def copy (signals : Signals P) (source destination : List Terminal) :
    Signals P × Except ValueError Unit :=
  let (store, outcome) :=
    signals.store.writeChannels destination 0 (signals.store.channels source)
  ({ signals with store }, outcome)

def putDevice (devices : List Device) (position : Option Nat) (device : Option Device) :
    List Device :=
  match position, device with
  | some index, some changed => devices.set index changed
  | _, _ => devices

def step (signals : Signals P) (slot : Nat) (device : Option Nat) :
    Signals P × Except NativeError StepStatus :=
  match signals.store[slot]? with
  | none => (signals, .ok .proceed)
  | some cell =>
      let result := Processor.step cell.processor cell.bank signals.context
        (device.bind (signals.devices[·]?))
      (⟨signals.store.set slot ⟨result.processor, result.bank⟩,
        putDevice signals.devices device result.device, result.context⟩, result.outcome)

/-- Carry out one instruction. -/
def perform (signals : Signals P) :
    Instruction → Signals P × Except CycleError StepStatus
  | .copy proc var source destination =>
      let (after, outcome) := signals.copy source destination
      (after, (outcome.map fun _ => .proceed).mapError (.input proc var))
  | .step proc className slot device =>
      let (after, outcome) := signals.step slot device
      (after, outcome.mapError (.step proc className))

/-- Carry out instructions until one fails. The end of the stream, once announced,
stays announced. -/
def run (status : StepStatus) :
    List Instruction → Signals P → Signals P × Except CycleError StepStatus
  | [], signals => (signals, .ok status)
  | instruction :: rest, signals =>
      match signals.perform instruction with
      | (after, .error fault) => (after, .error fault)
      | (after, .ok next) => run (status.or next) rest after

end Signals

/-- What the steps of the next cycle of a network know at first. -/
def Network.context {P : Type} (network : Network P) : CycleContext :=
  ⟨network.timing, network.cycleIndex⟩

/-- What the next cycle of a network works on at first. -/
def Network.signals {P : Type} (network : Network P) : Signals P :=
  ⟨network.store, network.devices, network.context⟩

/-- Advance a network by one cycle. The context goes with the cycle. -/
def Network.cycle {P : Type} [Processor P] (network : Network P) :
    Network P × Except CycleError StepStatus :=
  match Signals.run .proceed network.level.program network.signals with
  | (signals, .ok status) =>
      ({ network with
          store := signals.store
          devices := signals.devices
          cycleIndex := network.cycleIndex + 1 }, .ok status)
  | (signals, .error fault) =>
      ({ network with store := signals.store, devices := signals.devices }, .error fault)

/-- Why a run stopped. -/
inductive StopReason where
  | endOfStream
  | cycleLimit
deriving DecidableEq, Repr

/-- What a run did. -/
structure RunReport where
  cycles : Nat
  stop : StopReason
deriving DecidableEq, Repr

/-- Step until the end of the stream or until `limit` cycles are done; `done` counts
those before. -/
def runFrom {S : Type} (step : S → S × Except CycleError StepStatus) (done : Nat) :
    Nat → S → S × Except CycleError RunReport
  | 0, state => (state, .ok ⟨done, .cycleLimit⟩)
  | limit + 1, state =>
      match step state with
      | (after, .error fault) => (after, .error fault)
      | (after, .ok .endOfStream) => (after, .ok ⟨done + 1, .endOfStream⟩)
      | (after, .ok .proceed) => runFrom step (done + 1) limit after

/-- More cycles than a 64-bit count holds, which stand for no limit. -/
def unlimited : Nat := Number.maxCount + 1

/-- Step until the end of the stream or until the limit. -/
def runLoop {S : Type} (step : S → S × Except CycleError StepStatus) (limit : Option Nat)
    (state : S) : S × Except CycleError RunReport :=
  runFrom step 0 (limit.getD unlimited) state

/-- Run a network. -/
def Network.run {P : Type} [Processor P] (network : Network P) (limit : Option Nat) :
    Network P × Except CycleError RunReport :=
  runLoop Network.cycle limit network

end SignalNet
