import SignalNet.Class.Description

/-!
Contract: the fixed structure of a built network.

A network is a tree. Its leaves are native procs, each with a slot in a store
that is kept apart; its inner nodes are subnets, whose variables forward to
variables of inner procs. Nothing in the tree changes after the network is built,
so everything that follows from it can be computed once.

Owns: the tree, the terminals that a variable leads to, and the walks over all procs.
-/

set_option autoImplicit false

namespace SignalNet

/-- A resolved connection: a variable of a proc reads a variable of another one. -/
structure Connection where
  destination : Nat
  sourceProc : Nat
  sourceVariable : Nat
deriving DecidableEq, Repr

/-- What native procs and subnets have in common. -/
structure ProcHead (P : Type) where
  label : String
  /-- The number of the voice, for replicated subnets and everything inside. -/
  replica : Option Nat
  description : ClassDescription P
  inputs : List Connection
  /-- The position of the bound device. -/
  device : Option Nat

/-- A proc of a built network. -/
inductive Proc (P : Type) where
  | native (head : ProcHead P) (slot : Nat)
  /-- A subnet has inner procs with an order of execution and presets. Each of its
  variables forwards to variables of inner procs. -/
  | subnet (head : ProcHead P) (procs : List (Proc P)) (order : List Nat)
      (presets : List NetworkPreset) (forwards : List (List (Nat × Nat)))

/-- The procs of one network, without what is around them. -/
structure Level (P : Type) where
  procs : List (Proc P)
  /-- The positions of the procs in the order in which they are stepped. -/
  order : List Nat
  presets : List NetworkPreset

/-- A variable of a native proc, by its slot. -/
structure Terminal where
  slot : Nat
  var : Nat
deriving DecidableEq, Repr

namespace Proc

variable {P : Type}

def head : Proc P → ProcHead P
  | .native head _ => head
  | .subnet head _ _ _ _ => head

def label (proc : Proc P) : String := proc.head.label

def description (proc : Proc P) : ClassDescription P := proc.head.description

def declaration? (proc : Proc P) (var : Nat) : Option Declaration :=
  proc.description.vars[var]?

def variableLabel (proc : Proc P) (var : Nat) : String :=
  ((proc.declaration? var).map (·.label)).getD ""

/-- The position of the first variable with a label. -/
def variableIndex? (proc : Proc P) (label : String) : Option Nat :=
  proc.description.variableIndex? label

/-- The inside of a subnet. -/
def inner? : Proc P → Option (Level P)
  | .native _ _ => none
  | .subnet _ procs order presets _ => some ⟨procs, order, presets⟩

/-- The same proc with other connections. -/
def withInputs (proc : Proc P) (inputs : List Connection) : Proc P :=
  match proc with
  | .native head slot => .native { head with inputs } slot
  | .subnet head procs order presets forwards =>
      .subnet { head with inputs } procs order presets forwards

end Proc

mutual

/-- The native variables that a variable leads to. Reads come from the first, and
writes go to all. -/
def Proc.terminals {P : Type} : Proc P → Nat → List Terminal
  | .native _ slot, var => [⟨slot, var⟩]
  | .subnet _ procs _ _ forwards, var =>
      (forwards[var]?.getD []).flatMap fun target => terminalsAt procs target.1 target.2

/-- The native variables that a variable of the proc at a position leads to. -/
def terminalsAt {P : Type} : List (Proc P) → Nat → Nat → List Terminal
  | [], _, _ => []
  | proc :: _, 0, var => proc.terminals var
  | _ :: rest, position + 1, var => terminalsAt rest position var

end

/-- A proc together with the presets of the network that owns it. -/
structure Site (P : Type) where
  proc : Proc P
  presets : List NetworkPreset

mutual

/-- A proc and everything in it, inner procs first. -/
def Proc.sites {P : Type} (presets : List NetworkPreset) : Proc P → List (Site P)
  | .native head slot => [⟨.native head slot, presets⟩]
  | .subnet head procs order inner forwards =>
      sitesOf inner procs ++ [⟨.subnet head procs order inner forwards, presets⟩]

/-- Procs in order, each behind everything in it. -/
def sitesOf {P : Type} (presets : List NetworkPreset) : List (Proc P) → List (Site P)
  | [] => []
  | proc :: rest => proc.sites presets ++ sitesOf presets rest

end

mutual

/-- Whether the class of a proc has a preset, or something inside resolves it. -/
def Proc.resolves {P : Type} (preset : String) : Proc P → Bool
  | .native head _ => (head.description.preset? preset).isSome
  | .subnet head procs _ presets _ =>
      (head.description.preset? preset).isSome ||
        presets.any (·.label == preset) || anyResolves preset procs

def anyResolves {P : Type} (preset : String) : List (Proc P) → Bool
  | [] => false
  | proc :: rest => proc.resolves preset || anyResolves preset rest

end

namespace Level

variable {P : Type}

/-- The native variables that a variable of the proc at a position leads to. -/
def terminals (level : Level P) (position var : Nat) : List Terminal :=
  terminalsAt level.procs position var

/-- All procs at every depth, inner procs first. -/
def sites (level : Level P) : List (Site P) := sitesOf level.presets level.procs

/-- Whether the network or something inside resolves a preset. -/
def resolves (level : Level P) (preset : String) : Bool :=
  level.presets.any (·.label == preset) || anyResolves preset level.procs

/-- The labels of the procs in the order in which they are stepped. -/
def executionOrder (level : Level P) : List String :=
  level.order.map fun position => ((level.procs[position]?).map (·.label)).getD ""

end Level

end SignalNet
