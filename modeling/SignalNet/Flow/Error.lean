import SignalNet.Network.Error
import SignalNet.Schema.Error

/-!
Contract: what can go wrong from the files of a flow to the end of its run.
-/

set_option autoImplicit false

namespace SignalNet

/-- Why a setting of a flow is refused. -/
inductive SettingFault where
  | notTable (found : Toml.Kind)
  | missingTable
  | notPositive (x : Float)
  | zeroFrames
  | negative (x : Float)
  | noChannels (device : String)
deriving DecidableEq

def SettingFault.message : SettingFault → String
  | notTable found => "expected a table, found " ++ found.label
  | missingTable => "missing required table"
  | notPositive x => "must be a positive number, got " ++ Decimal.plain.double x
  | zeroFrames => "must be at least 1"
  | negative x => "must be zero or positive, got " ++ Decimal.plain.double x
  | noChannels device => "audio device '" ++ device ++ "' must have at least one channel"

/-- Why a flow does not load, build or run. -/
inductive FlowError where
  /-- A file is missing or unreadable. -/
  | unreadable
  /-- A text is no configuration, or its settings have the wrong keys or types. -/
  | malformed
  | invalidSetting (key : String) (fault : SettingFault)
  | schema (fault : SchemaError)
  | network (fault : NetworkError)
  | preset (fault : PresetError)
  | cycle (fault : CycleError)
deriving DecidableEq

def settingMessage (key : String) (fault : SettingFault) : String :=
  "invalid setting '" ++ key ++ "': " ++ fault.message

end SignalNet
