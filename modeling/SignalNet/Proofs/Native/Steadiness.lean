import SignalNet.Proofs.Native.Rows
import SignalNet.Proofs.Variable.Shape

/-!
Contract: steps of native classes keep the shape of a bank, and the context of the cycle.

A processor may store values in every step, but the built-in ones make no variable and no
channel. Variables are sized when a processor is created, and keep that size. The context is
open to every step and shared by all of them. It tells what holds for the whole cycle, so a step
has no reason to change it, and the built-in ones do not.

Owns: the obligations for processors (`SteadyProcessor`, `ContextReader`), and that everything
built in meets them, because a step only stores values (`Builtin.filled_step`) and hands on the
context (`Builtin.context_step`).
-/

set_option autoImplicit false

namespace SignalNet

/-- Processors whose steps keep the shape of their bank, those that fail included. -/
class SteadyProcessor (P : Type) [Processor P] : Prop where
  shape_step (processor : P) (bank : Bank) (context : CycleContext) (device : Option Device) :
    (Processor.step processor bank context device).bank.shape = bank.shape

/-- Processors that only read the context of the cycle, also in steps that fail. -/
class ContextReader (P : Type) [Processor P] : Prop where
  context_step (processor : P) (bank : Bank) (context : CycleContext) (device : Option Device) :
    (Processor.step processor bank context device).context = context

theorem Bank.filled_of_store {bank stored : Bank} {var : Nat} {x : Float}
    (done : bank.store var x = .ok stored) : bank.Filled stored :=
  filled_of_setNumber (mapError_eq_ok.mp done)

namespace Builtin

theorem filled_stepSineTone (frequency gain out : Nat) (phase : Float) (last : Option Float32)
    (bank : Bank) (timing : Timing) :
    bank.Filled (stepSineTone frequency gain out phase last bank timing).2.1 := by
  unfold stepSineTone
  dsimp only
  split
  · exact .refl
  · exact bank.filled_setAudio out _

theorem filled_stepAudioGain (input gain out : Nat) (last : Option Float32) (bank : Bank) :
    bank.Filled (stepAudioGain input gain out last bank).2.1 := by
  unfold stepAudioGain
  dsimp only
  split
  · exact .refl
  · exact bank.filled_setAudio out _

theorem filled_stepAudioMix (input₀ input₁ gain₀ gain₁ out : Nat) (buffer : AudioBlock)
    (bank : Bank) :
    bank.Filled (stepAudioMix input₀ input₁ gain₀ gain₁ out buffer bank).2.1 := by
  unfold stepAudioMix
  dsimp only
  split
  · exact .refl
  · exact bank.filled_setAudio out _

theorem filled_stepCounter (increment limit out : Nat) (bank : Bank) :
    bank.Filled (stepCounter increment limit out bank).1 := by
  unfold stepCounter
  dsimp only
  split
  · exact .refl
  · rename_i stored
    exact Bank.filled_of_store stored

theorem filled_process (processor : Builtin) (bank : Bank) (context : CycleContext)
    (device : Option Device) : bank.Filled (process processor bank context device).bank := by
  cases processor with
  | number value out =>
      simp only [process]
      split
      · rename_i stored
        exact Bank.filled_of_store stored
      · exact .refl
  | counter increment limit out => exact filled_stepCounter increment limit out bank
  | sineTone frequency gain out phase last =>
      exact filled_stepSineTone frequency gain out phase last bank context.timing
  | audioGain input gain out last => exact filled_stepAudioGain input gain out last bank
  | audioMix input₀ input₁ gain₀ gain₁ out buffer =>
      exact filled_stepAudioMix input₀ input₁ gain₀ gain₁ out buffer bank
  | audioIn out =>
      simp only [process]
      split
      · exact .refl
      · split
        · exact .refl
        · exact bank.filled_setAudio out _
  | audioOut input =>
      simp only [process]
      split <;> exact .refl

/-- A step of a built-in processor stores values and does nothing else to the bank. -/
theorem filled_step (processor : Builtin) (bank : Bank) (context : CycleContext)
    (device : Option Device) : bank.Filled (step processor bank context device).bank := by
  rcases processor.step_cases bank context device with ⟨-, fault, ended⟩ | ⟨-, processed⟩
  · rw [ended]
    exact .refl
  · rw [processed]
    exact filled_process processor bank context device

theorem context_process (processor : Builtin) (bank : Bank) (context : CycleContext)
    (device : Option Device) : (process processor bank context device).context = context := by
  cases processor <;> dsimp only [process] <;> repeat' split
  all_goals rfl

/-- The steps behind a step of a built-in processor know what it knew. -/
theorem context_step (processor : Builtin) (bank : Bank) (context : CycleContext)
    (device : Option Device) : (step processor bank context device).context = context := by
  rcases processor.step_cases bank context device with ⟨-, fault, ended⟩ | ⟨-, processed⟩
  · rw [ended]
  · rw [processed]
    exact context_process processor bank context device

instance : SteadyProcessor Builtin where
  shape_step processor bank context device := (filled_step processor bank context device).shape_eq

instance : ContextReader Builtin where
  context_step := context_step

end Builtin

end SignalNet
