import SignalNet.Network.Access
import SignalNet.Proofs.Network.Written

/-!
Contract: the life of a built network.

After it is built, a network is advanced, addressed, given presets, and its devices
are exchanged with the host. An operation may fail and still leave something behind;
the next operation goes on from there.

Owns: operations, their answers and runs of them, what no operation changes, and the
principle that whatever assignments and native steps keep holds of the cells after every run.
-/

set_option autoImplicit false

namespace SignalNet

variable {P : Type} [Processor P]

/-- What can be done with a built network. -/
inductive Operation where
  | cycle
  | set (label var : String) (channel : Nat) (value : Value)
  | setById (id : VarId) (value : Value)
  | preset (label : String) (replica : Option Nat)
  | dualPreset (first second : String) (coefficient : Float) (replica : Option Nat)
  | multiPreset (selector : PresetSelector) (replica : Option Nat) (source : WordSource)
  /-- The host reads or fills a device between cycles. -/
  | exchange (position : Nat) (device : Device)

/-- What the host is told when something was done, or asked for. -/
inductive Answer where
  | cycle (outcome : Except CycleError StepStatus)
  | write (outcome : Except NetworkError Unit)
  | preset (outcome : Except PresetError Unit)
  | read (outcome : Except NetworkError Value)
  | done

namespace Network

/-- The network that an operation leaves behind, whether it succeeded or not. -/
def perform (network : Network P) : Operation → Network P
  | .cycle => network.cycle.1
  | .set label var channel value => (network.set label var channel value).1
  | .setById id value => (network.setById id value).1
  | .preset label replica => (network.applyPreset label replica).1
  | .dualPreset first second coefficient replica =>
      (network.applyDualPreset first second coefficient replica).1
  | .multiPreset selector replica source => (network.applySelector selector replica source).1
  | .exchange position device =>
      { network with devices := network.devices.set position device }

def answer (network : Network P) : Operation → Answer
  | .cycle => .cycle network.cycle.2
  | .set label var channel value => .write (network.set label var channel value).2
  | .setById id value => .write (network.setById id value).2
  | .preset label replica => .preset (network.applyPreset label replica).2
  | .dualPreset first second coefficient replica =>
      .preset (network.applyDualPreset first second coefficient replica).2
  | .multiPreset selector replica source =>
      .preset (network.applySelector selector replica source).2
  | .exchange _ _ => .done

def performAll (network : Network P) (operations : List Operation) : Network P :=
  operations.foldl perform network

/-- A network whose cells were assigned to, and which is otherwise the same. -/
def Assigned (before after : Network P) : Prop :=
  ∃ store, Store.Written (fun _ => True) before.store store ∧ after = { before with store }

theorem Assigned.self (network : Network P) : Assigned network network :=
  ⟨network.store, .refl, rfl⟩

theorem setById_fst (network : Network P) (id : VarId) (value : Value) :
    (network.setById id value).1 = { network with
      store :=
        (network.store.write true id.channel value (network.terminals id.proc id.var)).1 } := by
  unfold setById
  split <;> rename_i result <;> rw [result]

theorem assigned_setById (network : Network P) (id : VarId) (value : Value) :
    Assigned network (network.setById id value).1 :=
  ⟨_, (Store.written_write _ _ _ _ _).mono fun _ _ => trivial, network.setById_fst id value⟩

theorem assigned_set (network : Network P) (label var : String) (channel : Nat) (value : Value) :
    Assigned network (network.set label var channel value).1 := by
  unfold set
  split
  · exact .self network
  · exact network.assigned_setById _ value

theorem assigned_applyWeights (network : Network P) (weights : Weights) (replica : Option Nat)
    (name : String) : Assigned network (network.applyWeights weights replica name).1 := by
  unfold applyWeights
  split
  · exact .self network
  · exact ⟨_, (Blend.written_applySites _ _ _ _).mono fun _ _ => trivial, rfl⟩

/-- An operation is a cycle, or assigns to cells, or replaces a device. -/
theorem perform_cases (network : Network P) (operation : Operation) :
    network.perform operation = network.cycle.1 ∨
      Assigned network (network.perform operation) ∨
      ∃ devices, network.perform operation = { network with devices } := by
  cases operation with
  | cycle => exact .inl rfl
  | set label var channel value => exact .inr (.inl (network.assigned_set label var channel value))
  | setById id value => exact .inr (.inl (network.assigned_setById id value))
  | preset label replica => exact .inr (.inl (network.assigned_applyWeights _ replica label))
  | dualPreset first second coefficient replica =>
      refine .inr (.inl ?_)
      show Assigned network (network.applyDualPreset first second coefficient replica).1
      unfold applyDualPreset
      split
      · exact network.assigned_applyWeights _ _ _
      · exact .self network
  | multiPreset selector replica source =>
      refine .inr (.inl ?_)
      show Assigned network (network.applySelector selector replica source).1
      unfold applySelector
      split
      · exact .self network
      · exact network.assigned_applyWeights _ _ _
  | exchange position device => exact .inr (.inr ⟨_, rfl⟩)

theorem cycle_fst_eq (network : Network P) :
    ∃ status index, network.cycle.1 =
      let signals := (Signals.run status network.level.program network.signals).1
      { network with store := signals.store, devices := signals.devices, cycleIndex := index } := by
  refine ⟨.proceed, network.cycle.1.cycleIndex, ?_⟩
  unfold cycle
  split <;> rename_i result <;> rw [result]

theorem timing_perform (network : Network P) (operation : Operation) :
    (network.perform operation).timing = network.timing := by
  rcases network.perform_cases operation with cycled | ⟨store, -, assigned⟩ | ⟨devices, exchanged⟩
  · obtain ⟨status, index, result⟩ := network.cycle_fst_eq
    rw [cycled, result]
  · rw [assigned]
  · rw [exchanged]

/-! ## What runs keep -/

theorem level_performAll (network : Network P) (operations : List Operation) :
    (network.performAll operations).level = network.level := by
  induction operations generalizing network with
  | nil => rfl
  | cons operation rest inductionHypothesis =>
      rw [performAll, List.foldl_cons]
      apply (inductionHypothesis (network.perform operation)).trans
      rcases network.perform_cases operation with
        cycled | ⟨store, -, assigned⟩ | ⟨devices, exchanged⟩
      · obtain ⟨status, index, result⟩ := network.cycle_fst_eq
        rw [cycled, result]
      · rw [assigned]
      · rw [exchanged]

end Network

theorem Signals.run_keeps {motive : Store P → Prop}
    (assigned : ∀ before after, motive before → Store.Written (fun _ => True) before after →
      motive after)
    (stepped : ∀ (signals : Signals P) slot device, motive signals.store →
      motive (signals.step slot device).1.store)
    (status : StepStatus) (program : List Instruction)
    (signals : Signals P) (initial : motive signals.store) :
    motive (Signals.run status program signals).1.store := by
  induction program generalizing status signals with
  | nil => exact initial
  | cons instruction rest inductionHypothesis =>
      have once : motive (signals.perform instruction).1.store := by
        cases instruction with
        | copy proc var source destination =>
            exact assigned signals.store _ initial
              ((Store.written_writeChannels _ _ _ _).mono fun _ _ => trivial)
        | step proc className slot device => exact stepped signals slot device initial
      rw [Signals.run]
      split <;> rename_i result <;> rw [result] at once
      · exact once
      · exact inductionHypothesis _ _ once

/-- What assignments and native steps keep is kept by every run of operations. -/
theorem Network.performAll_keeps {motive : Store P → Prop}
    (assigned : ∀ before after, motive before → Store.Written (fun _ => True) before after →
      motive after)
    (stepped : ∀ (signals : Signals P) slot device, motive signals.store →
      motive (signals.step slot device).1.store)
    (network : Network P) (operations : List Operation) (initial : motive network.store) :
    motive (network.performAll operations).store := by
  induction operations generalizing network with
  | nil => exact initial
  | cons operation rest inductionHypothesis =>
      rw [performAll, List.foldl_cons]
      apply inductionHypothesis (network.perform operation)
      rcases network.perform_cases operation with
        cycled | ⟨store, written, result⟩ | ⟨devices, result⟩
      · obtain ⟨status, index, result⟩ := network.cycle_fst_eq
        rw [cycled, result]
        exact Signals.run_keeps assigned stepped status _ _ initial
      · rw [result]
        exact assigned network.store store initial written
      · rw [result]
        exact initial

theorem Network.length_performAll (network : Network P) (operations : List Operation) :
    (network.performAll operations).store.length = network.store.length := by
  refine Network.performAll_keeps (motive := fun store => store.length = network.store.length)
    ?_ ?_ network operations rfl
  · intro before after sameLength written
    rw [written.length_eq, sameLength]
  · intro signals slot device sameLength
    unfold Signals.step
    split
    · exact sameLength
    · exact List.length_set.trans sameLength

end SignalNet
