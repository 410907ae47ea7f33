import SignalNet.Network.Build
import SignalNet.Preset.Selector

/-!
Contract: applying presets to a network.

One preset is assigned, two are blended with a coefficient, and a selector blends
whatever it resolves to. A label that nothing resolves refuses the whole
application; otherwise everything that can be applied is applied.
-/

set_option autoImplicit false

namespace SignalNet.Network

variable {P : Type}

/-- Whether anything in the network resolves a preset. -/
def hasPreset (network : Network P) (label : String) : Bool := network.level.resolves label

/-- Apply weighted presets under a name. -/
def applyWeights [Processor P] (network : Network P) (weights : Weights)
    (replica : Option Nat) (name : String) : Network P × Except PresetError Unit :=
  match weights.find? fun entry => !network.hasPreset entry.1 with
  | some (missing, _) => (network, .error (.unknownPreset missing))
  | none =>
      let (store, failures) := Blend.applySites weights replica network.level.sites network.store
      ({ network with store }, Blend.outcome name failures)

def applyPreset [Processor P] (network : Network P) (label : String) (replica : Option Nat) :
    Network P × Except PresetError Unit :=
  network.applyWeights [(label, 1)] replica label

/-- Blend two presets; the coefficient is the weight of the second. -/
def applyDualPreset [Processor P] (network : Network P) (first second : String)
    (coefficient : Float) (replica : Option Nat) : Network P × Except PresetError Unit :=
  if PresetSelector.isCoefficient coefficient then
    network.applyWeights [(first, 1 - coefficient), (second, coefficient)] replica
      (first ++ "|" ++ second)
  else (network, .error (.invalidCoefficient coefficient))

/-- Blend what a selector resolves to. -/
def applySelector [Processor P] (network : Network P) (selector : PresetSelector)
    (replica : Option Nat) (source : WordSource) : Network P × Except PresetError Unit :=
  match (selector.resolve source).1 with
  | .error fault => (network, .error fault)
  | .ok weights =>
      network.applyWeights weights replica (String.intercalate "|" (weights.map (·.1)))

end SignalNet.Network
