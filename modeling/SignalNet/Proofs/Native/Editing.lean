import SignalNet.Native.Registry
import SignalNet.Proofs.Native.Steadiness
import SignalNet.Proofs.Variable.Layout

/-!
Contract: native classes change banks through the operations of a bank.

A bank hands out no variable as a whole: native code can put any value into a channel, size a
variable, and apply literals, at creation and in every step. What it does between is its own
business.

Owns: the obligation for processors (`EditingProcessor`) and for native classes
(`NativeClass.Edits`), and that everything built in meets it.
-/

set_option autoImplicit false

namespace SignalNet

/-- Processors whose steps change a bank through its operations only, those that fail included. -/
class EditingProcessor (P : Type) [Processor P] : Prop where
  edited_step (processor : P) (bank : Bank) (context : CycleContext) (device : Option Device) :
    bank.Edited (Processor.step processor bank context device).bank

/-- A native class whose creations change a bank through its operations only. -/
def NativeClass.Edits {P : Type} (native : NativeClass P) : Prop :=
  ∀ context bank processor stored, native.create context bank = .ok (processor, stored) →
    bank.Edited stored

namespace Builtin

instance : EditingProcessor Builtin where
  edited_step processor bank context device := (filled_step processor bank context device).edited

/-! ## Creation -/

theorem edits_numberClass : numberClass.Edits := by
  intro context bank processor stored created
  obtain ⟨value, -, created⟩ := bind_eq_ok.mp created
  obtain ⟨out, -, created⟩ := bind_eq_ok.mp created
  obtain ⟨shown, stores, created⟩ := bind_eq_ok.mp created
  cases created
  exact (Bank.filled_of_store stores).edited

theorem edits_counterClass : counterClass.Edits := by
  intro context bank processor stored created
  obtain ⟨increment, -, created⟩ := bind_eq_ok.mp created
  obtain ⟨limit, -, created⟩ := bind_eq_ok.mp created
  obtain ⟨out, -, created⟩ := bind_eq_ok.mp created
  cases created
  exact .refl

theorem edits_sineToneClass : sineToneClass.Edits := by
  intro context bank processor stored created
  obtain ⟨count, -, created⟩ := bind_eq_ok.mp created
  obtain ⟨out, -, created⟩ := bind_eq_ok.mp created
  obtain ⟨frequency, -, created⟩ := bind_eq_ok.mp created
  obtain ⟨gain, -, created⟩ := bind_eq_ok.mp created
  cases created
  exact (bank.filled_allocateAudio _ _ _).edited

theorem edits_audioGainClass : audioGainClass.Edits := by
  intro context bank processor stored created
  obtain ⟨input, -, created⟩ := bind_eq_ok.mp created
  obtain ⟨gain, -, created⟩ := bind_eq_ok.mp created
  obtain ⟨out, -, created⟩ := bind_eq_ok.mp created
  cases created
  exact .refl

theorem edits_audioMixClass : audioMixClass.Edits := by
  intro context bank processor stored created
  obtain ⟨input₀, -, created⟩ := bind_eq_ok.mp created
  obtain ⟨input₁, -, created⟩ := bind_eq_ok.mp created
  obtain ⟨gain₀, -, created⟩ := bind_eq_ok.mp created
  obtain ⟨gain₁, -, created⟩ := bind_eq_ok.mp created
  obtain ⟨out, -, created⟩ := bind_eq_ok.mp created
  cases created
  exact .refl

theorem edits_audioInClass : audioInClass.Edits := by
  intro context bank processor stored created
  obtain ⟨block, -, created⟩ := bind_eq_ok.mp created
  obtain ⟨out, -, created⟩ := bind_eq_ok.mp created
  cases created
  exact (bank.filled_allocateAudio _ _ _).edited

theorem edits_audioOutClass : audioOutClass.Edits := by
  intro context bank processor stored created
  obtain ⟨block, -, created⟩ := bind_eq_ok.mp created
  obtain ⟨input, -, created⟩ := bind_eq_ok.mp created
  cases created
  exact .refl

end Builtin

/-- Every class that comes with the library changes banks through their operations. -/
theorem Registry.edits_builtin {label : String} {native : NativeClass Builtin}
    (found : builtin.get? label = some native) : native.Edits := by
  obtain ⟨entry, isEntry, rfl⟩ := Option.map_eq_some_iff.mp found
  have member := List.mem_of_find?_eq_some isEntry
  simp only [builtin, List.mem_cons, List.not_mem_nil, or_false] at member
  rcases member with rfl | rfl | rfl | rfl | rfl | rfl | rfl
  · exact Builtin.edits_numberClass
  · exact Builtin.edits_counterClass
  · exact Builtin.edits_sineToneClass
  · exact Builtin.edits_audioGainClass
  · exact Builtin.edits_audioMixClass
  · exact Builtin.edits_audioInClass
  · exact Builtin.edits_audioOutClass

end SignalNet
