import SignalNet.Native.Registry
import SignalNet.Proofs.Native.Rows
import SignalNet.Proofs.Variable.Bank

/-!
Contract: native classes keep banks typed.

A processor may change the bank of its proc in every step, and at its creation. What it
puts into a variable has the type of that variable: the built-in classes store numbers
with the type that is there, and audio only where there is audio.

Owns: the obligation for processors (`TypedProcessor`) and for native classes
(`NativeClass.Typed`), and that everything built in meets it.
-/

set_option autoImplicit false

namespace SignalNet

/-- Processors whose steps keep banks typed, those that fail included. -/
class TypedProcessor (P : Type) [Processor P] : Prop where
  typed_step (processor : P) {bank : Bank} (context : CycleContext) (device : Option Device)
    {types : List ValueType} (typed : bank.Typed types) :
    (Processor.step processor bank context device).bank.Typed types

/-- A native class whose creations keep banks typed. -/
def NativeClass.Typed {P : Type} (native : NativeClass P) : Prop :=
  ∀ context bank processor stored types, native.create context bank = .ok (processor, stored) →
    bank.Typed types → stored.Typed types

variable {types : List ValueType} {bank : Bank}

theorem Bank.Typed.store (typed : bank.Typed types) {var : Nat} {x : Float} {stored : Bank}
    (done : bank.store var x = .ok stored) : stored.Typed types :=
  typed.setNumber (mapError_eq_ok.mp done)

namespace Builtin

/-! ## Steps -/

theorem typed_stepSineTone (typed : bank.Typed types) (frequency gain out : Nat) (phase : Float)
    (last : Option Float32) (timing : Timing) :
    (stepSineTone frequency gain out phase last bank timing).2.1.Typed types := by
  unfold stepSineTone
  dsimp only
  split
  · exact typed
  · rename_i found
    exact typed.setAudio found _

theorem typed_stepAudioGain (typed : bank.Typed types) (input gain out : Nat)
    (last : Option Float32) : (stepAudioGain input gain out last bank).2.1.Typed types := by
  unfold stepAudioGain
  dsimp only
  split
  · exact typed
  · rename_i found
    exact typed.setAudio (Bank.audio?_of_audioPair? found) _

theorem typed_stepAudioMix (typed : bank.Typed types) (input₀ input₁ gain₀ gain₁ out : Nat)
    (buffer : AudioBlock) :
    (stepAudioMix input₀ input₁ gain₀ gain₁ out buffer bank).2.1.Typed types := by
  unfold stepAudioMix
  dsimp only
  split
  · exact typed
  · rename_i found
    exact typed.setAudio found _

theorem typed_stepCounter (typed : bank.Typed types) (increment limit out : Nat) :
    (stepCounter increment limit out bank).1.Typed types := by
  unfold stepCounter
  dsimp only
  split
  · exact typed
  · rename_i stored
    exact typed.store stored

theorem typed_process (processor : Builtin) (context : CycleContext) (device : Option Device)
    (typed : bank.Typed types) : (process processor bank context device).bank.Typed types := by
  cases processor with
  | number value out =>
      simp only [process]
      split
      · rename_i stored
        exact typed.store stored
      · exact typed
  | counter increment limit out => exact typed_stepCounter typed increment limit out
  | sineTone frequency gain out phase last =>
      exact typed_stepSineTone typed frequency gain out phase last context.timing
  | audioGain input gain out last => exact typed_stepAudioGain typed input gain out last
  | audioMix input₀ input₁ gain₀ gain₁ out buffer =>
      exact typed_stepAudioMix typed input₀ input₁ gain₀ gain₁ out buffer
  | audioIn out =>
      simp only [process]
      split
      · exact typed
      · split
        · exact typed
        · rename_i found
          exact typed.setAudio found _
  | audioOut input =>
      simp only [process]
      split <;> exact typed

theorem typed_step (processor : Builtin) (context : CycleContext) (device : Option Device)
    (typed : bank.Typed types) : (step processor bank context device).bank.Typed types := by
  rcases processor.step_cases bank context device with ⟨-, fault, ended⟩ | ⟨-, processed⟩
  · rw [ended]
    exact typed
  · rw [processed]
    exact typed_process processor context device typed

instance : TypedProcessor Builtin where
  typed_step processor _ context device _ typed := typed_step processor context device typed

/-! ## Creation -/

theorem typed_numberClass : numberClass.Typed := by
  intro context bank processor stored types created typed
  obtain ⟨value, -, created⟩ := bind_eq_ok.mp created
  obtain ⟨out, -, created⟩ := bind_eq_ok.mp created
  obtain ⟨shown, stores, created⟩ := bind_eq_ok.mp created
  cases created
  exact typed.store stores

theorem typed_counterClass : counterClass.Typed := by
  intro context bank processor stored types created typed
  obtain ⟨increment, -, created⟩ := bind_eq_ok.mp created
  obtain ⟨limit, -, created⟩ := bind_eq_ok.mp created
  obtain ⟨out, -, created⟩ := bind_eq_ok.mp created
  cases created
  exact typed

theorem typed_sineToneClass : sineToneClass.Typed := by
  intro context bank processor stored types created typed
  obtain ⟨count, -, created⟩ := bind_eq_ok.mp created
  obtain ⟨out, -, created⟩ := bind_eq_ok.mp created
  obtain ⟨frequency, -, created⟩ := bind_eq_ok.mp created
  obtain ⟨gain, -, created⟩ := bind_eq_ok.mp created
  cases created
  exact typed.allocateAudio _ _ _

theorem typed_audioGainClass : audioGainClass.Typed := by
  intro context bank processor stored types created typed
  obtain ⟨input, -, created⟩ := bind_eq_ok.mp created
  obtain ⟨gain, -, created⟩ := bind_eq_ok.mp created
  obtain ⟨out, -, created⟩ := bind_eq_ok.mp created
  cases created
  exact typed

theorem typed_audioMixClass : audioMixClass.Typed := by
  intro context bank processor stored types created typed
  obtain ⟨input₀, -, created⟩ := bind_eq_ok.mp created
  obtain ⟨input₁, -, created⟩ := bind_eq_ok.mp created
  obtain ⟨gain₀, -, created⟩ := bind_eq_ok.mp created
  obtain ⟨gain₁, -, created⟩ := bind_eq_ok.mp created
  obtain ⟨out, -, created⟩ := bind_eq_ok.mp created
  cases created
  exact typed

theorem typed_audioInClass : audioInClass.Typed := by
  intro context bank processor stored types created typed
  obtain ⟨block, -, created⟩ := bind_eq_ok.mp created
  obtain ⟨out, -, created⟩ := bind_eq_ok.mp created
  cases created
  exact typed.allocateAudio _ _ _

theorem typed_audioOutClass : audioOutClass.Typed := by
  intro context bank processor stored types created typed
  obtain ⟨block, -, created⟩ := bind_eq_ok.mp created
  obtain ⟨input, -, created⟩ := bind_eq_ok.mp created
  cases created
  exact typed

end Builtin

/-- Every class that comes with the library keeps banks typed. -/
theorem Registry.typed_builtin {label : String} {native : NativeClass Builtin}
    (found : builtin.get? label = some native) : native.Typed := by
  obtain ⟨entry, isEntry, rfl⟩ := Option.map_eq_some_iff.mp found
  have member := List.mem_of_find?_eq_some isEntry
  simp only [builtin, List.mem_cons, List.not_mem_nil, or_false] at member
  rcases member with rfl | rfl | rfl | rfl | rfl | rfl | rfl
  · exact Builtin.typed_numberClass
  · exact Builtin.typed_counterClass
  · exact Builtin.typed_sineToneClass
  · exact Builtin.typed_audioGainClass
  · exact Builtin.typed_audioMixClass
  · exact Builtin.typed_audioInClass
  · exact Builtin.typed_audioOutClass

end SignalNet
