import SignalNet.Native.Processor
import SignalNet.Preset.Error

/-!
Contract: what can go wrong when networks are built, addressed and stepped.
-/

set_option autoImplicit false

namespace SignalNet

/-- Why a connection cannot be made. -/
inductive ConnectionFault where
  | malformed (fault : RefError)
  | noProc (label : String)
  | noVariable (proc var : String)
  | incompatible (source destination : ValueType)
deriving DecidableEq

def ConnectionFault.message : ConnectionFault → String
  | malformed fault => fault.message
  | noProc label => "no proc labelled '" ++ label ++ "'"
  | noVariable proc var => "'" ++ proc ++ "' has no variable '" ++ var ++ "'"
  | incompatible source destination =>
      "cannot connect " ++ source.label ++ " to " ++ destination.label

/-- Why a network cannot be built, or a variable cannot be reached. -/
inductive NetworkError where
  | unknownClass (proc className : String)
  | duplicateProc (label : String)
  | unknownProc (label : String)
  | unknownVariable (proc var : String)
  | channelOutOfRange (proc var : String) (channel count : Nat)
  | invalidValue (proc var : String) (fault : ValueError)
  | polyLimit (className : String) (limit count : Nat)
  | polyOnPlain (proc : String)
  | nestedPoly (proc : String)
  | badConnection (proc var source : String) (fault : ConnectionFault)
  | missingSource (proc var : String)
  | connectionCycle (proc : String)
  | deviceRequired (proc className : String)
  | unknownDevice (proc device : String)
  | construct (proc className : String) (fault : NativeError)
  | preset (proc : String) (fault : PresetError)
  | invalidId
  /-- The classes nest without end. -/
  | endlessNesting
deriving DecidableEq

/-- A proc, as messages name it. -/
def procName (label : String) : String := "proc '" ++ label ++ "'"

/-- A variable of a proc, as messages name it. -/
def procVariable (proc var : String) : String := procName proc ++ " var '" ++ var ++ "'"

/-- An input of a proc, as messages name it. -/
def procInput (proc var : String) : String := procName proc ++ " input '" ++ var ++ "'"

def NetworkError.message : NetworkError → String
  | unknownClass proc className => procName proc ++ ": unknown class '" ++ className ++ "'"
  | duplicateProc label => "duplicate proc instance label '" ++ label ++ "'"
  | unknownProc label => "unknown proc instance '" ++ label ++ "'"
  | unknownVariable proc var => procName proc ++ ": unknown variable '" ++ var ++ "'"
  | channelOutOfRange proc var channel count =>
      procVariable proc var ++ ": channel " ++ toString channel ++ " out of range (" ++
        toString count ++ " channels)"
  | invalidValue proc var fault => procVariable proc var ++ ": " ++ fault.message
  | polyLimit className limit count =>
      "class '" ++ className ++ "' is limited to " ++ toString limit ++
        " instances per network, found " ++ toString count
  | polyOnPlain proc => procName proc ++ ": poly_cnt is only valid on subnet procs"
  | nestedPoly proc => procName proc ++ ": poly_cnt inside a replicated subnet"
  | badConnection proc var source fault =>
      procInput proc var ++ ": cannot connect to '" ++ source ++ "': " ++ fault.message
  | missingSource proc var => procVariable proc var ++ " requires a source connection"
  | connectionCycle proc => "connection cycle through " ++ procName proc
  | deviceRequired proc className =>
      procName proc ++ " of class '" ++ className ++ "' requires a device"
  | unknownDevice proc device => procName proc ++ ": unknown device '" ++ device ++ "'"
  | construct proc className fault =>
      procName proc ++ " of class '" ++ className ++ "' failed to construct: " ++ fault.message
  | preset proc fault => procName proc ++ ": " ++ fault.message
  | invalidId => "stale or foreign variable id"
  | endlessNesting => "subnets nest without end"

/-- Why a cycle was not completed. -/
inductive CycleError where
  | step (proc className : String) (fault : NativeError)
  | input (proc var : String) (fault : ValueError)
  /-- A loop that mixes two networks runs out of the store of a block. -/
  | overrun (fault : Overrun)
deriving DecidableEq

def CycleError.message : CycleError → String
  | step proc className fault =>
      procName proc ++ " (" ++ className ++ ") failed: " ++ fault.message
  | input proc var fault => procInput proc var ++ ": " ++ fault.message
  | overrun fault => fault.message

end SignalNet
