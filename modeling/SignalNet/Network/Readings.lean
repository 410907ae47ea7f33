import SignalNet.Network.Access

/-!
Contract: a listing of all variables of a network with their values.

A variable is named by its proc, with the number of the voice if there is one, and
by the subnets around it. Every declaration is listed, and its value is looked up by
that name.
-/

set_option autoImplicit false

namespace SignalNet

def Proc.displayName {P : Type} (proc : Proc P) : String :=
  match proc.head.replica with
  | some number => proc.label ++ "[" ++ toString number ++ "]"
  | none => proc.label

/-- The variables of one proc that are not declared as audio. -/
def Proc.readings {P : Type} (store : Store P) (around : String) (proc : Proc P) :
    List (String × List Value) :=
  (proc.description.vars.filter (·.type ≠ .audio)).map fun declaration =>
    (around ++ proc.displayName ++ "." ++ declaration.label,
      store.labelled proc declaration.label)

mutual

/-- The variables of a proc and of everything in it. -/
def Proc.allReadings {P : Type} (store : Store P) (around : String) :
    Proc P → List (String × List Value)
  | .native head slot => (Proc.native head slot).readings store around
  | .subnet head procs order presets forwards =>
      let proc := Proc.subnet head procs order presets forwards
      proc.readings store around ++ readingsOf store (around ++ proc.displayName ++ "/") procs

/-- The variables of some procs and of everything in them. -/
def readingsOf {P : Type} (store : Store P) (around : String) :
    List (Proc P) → List (String × List Value)
  | [] => []
  | proc :: rest => proc.allReadings store around ++ readingsOf store around rest

end

def Network.readings {P : Type} (network : Network P) : List (String × List Value) :=
  readingsOf network.store "" network.level.procs

end SignalNet
