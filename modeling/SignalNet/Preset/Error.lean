import SignalNet.Value.Basic

/-!
Contract: what can go wrong when presets are applied.
-/

set_option autoImplicit false

namespace SignalNet

/-- Why one field of a preset was not applied. -/
inductive PresetFault where
  | unknownVariable
  | signalVariable (type : ValueType)
  | tooManyValues (values channels : Nat)
  | noClassPreset (className preset : String)
  | value (fault : ValueError)
deriving DecidableEq

def PresetFault.message : PresetFault → String
  | unknownVariable => "unknown variable"
  | signalVariable type => type.label ++ " variables cannot be preset"
  | tooManyValues values channels =>
      toString values ++ " values for " ++ toString channels ++ " channel(s)"
  | noClassPreset className preset =>
      "class '" ++ className ++ "' has no preset '" ++ preset ++ "'"
  | value fault => fault.message

/-- A field of a preset that was not applied to a proc. -/
structure PresetFailure where
  proc : String
  var : String
  fault : PresetFault
deriving DecidableEq

def PresetFailure.message (failure : PresetFailure) : String :=
  failure.proc ++ "." ++ failure.var ++ ": " ++ failure.fault.message

/-- Why a preset was not applied, or not applied in full. -/
inductive PresetError where
  | unknownPreset (label : String)
  | incomplete (preset : String) (failures : List PresetFailure)
  | emptySelector
  | invalidCoefficient (x : Float)
deriving DecidableEq

def PresetError.message : PresetError → String
  | unknownPreset label => "unknown preset '" ++ label ++ "'"
  | incomplete preset failures =>
      "preset '" ++ preset ++ "' applied with " ++ toString failures.length ++
        " failed field(s): " ++ String.intercalate "; " (failures.map PresetFailure.message)
  | emptySelector => "multi-preset selector has no primary presets"
  | invalidCoefficient x =>
      "blend coefficient " ++ Decimal.plain.double x ++ " is outside [0, 1]"

end SignalNet
