import SignalNet.Network.Build

/-!
Contract: reading and writing variables of a built network by name.

An address names a proc, a variable and a channel. It resolves to positions, which
stay good for the life of the network. A write converts to the type of the
variable and tells the processors behind it.
-/

set_option autoImplicit false

namespace SignalNet

/-- The resolved address of a channel. -/
structure VarId where
  proc : Nat
  var : Nat
  channel : Nat
deriving DecidableEq, Repr

namespace Network

variable {P : Type}

def proc? (network : Network P) (position : Nat) : Option (Proc P) :=
  network.level.procs[position]?

/-- The native variables behind a variable of the proc at a position. -/
def terminals (network : Network P) (position var : Nat) : List Terminal :=
  network.level.terminals position var

def channelsAt (network : Network P) (position var : Nat) : Nat :=
  network.store.channelCount (network.terminals position var)

/-- Resolve a variable and a channel of the proc at a position. -/
def resolve (network : Network P) (position : Nat) (proc : Proc P) (var : String)
    (channel : Nat) : Except NetworkError VarId :=
  match proc.variableIndex? var with
  | none => .error (.unknownVariable proc.label var)
  | some index =>
      let count := network.channelsAt position index
      if channel < count then .ok ⟨position, index, channel⟩
      else .error (.channelOutOfRange proc.label var channel count)

/-- Resolve an address in the first proc that is accepted; `name` is its name. -/
def resolveIn (network : Network P) (accept : Proc P → Bool) (name var : String)
    (channel : Nat) : Except NetworkError VarId :=
  match network.level.procs.findIdx? accept with
  | none => .error (.unknownProc name)
  | some position =>
      match network.proc? position with
      | none => .error (.unknownProc name)
      | some proc => network.resolve position proc var channel

/-- Resolve an address. Of several voices the first is meant. -/
def varId (network : Network P) (label var : String) (channel : Nat) :
    Except NetworkError VarId :=
  network.resolveIn (·.label == label) label var channel

/-- Resolve an address in one voice. -/
def voiceVarId (network : Network P) (label : String) (voice : Nat) (var : String)
    (channel : Nat) : Except NetworkError VarId :=
  network.resolveIn (fun proc => proc.label == label && proc.head.replica == some voice)
    (label ++ "[" ++ toString voice ++ "]") var channel

def valueById (network : Network P) (id : VarId) : Except NetworkError Value :=
  match network.store.value? (network.terminals id.proc id.var) id.channel with
  | some value => .ok value
  | none => .error .invalidId

def invalid (network : Network P) (id : VarId) (fault : ValueError) : NetworkError :=
  match network.proc? id.proc with
  | some proc => .invalidValue proc.label (proc.variableLabel id.var) fault
  | none => .invalidId

/-- The value at an id, converted to a type. -/
def getById (network : Network P) (id : VarId) (type : ValueType) :
    Except NetworkError Value := do
  let value ← network.valueById id
  (value.convert type).mapError (network.invalid id)

/-- Write the channel at an id. -/
def setById [Processor P] (network : Network P) (id : VarId) (value : Value) :
    Network P × Except NetworkError Unit :=
  match network.store.write true id.channel value (network.terminals id.proc id.var) with
  | (store, .ok true) => ({ network with store }, .ok ())
  | (store, .ok false) => ({ network with store }, .error .invalidId)
  | (store, .error fault) => ({ network with store }, .error (network.invalid id fault))

/-- The value at an address, converted to a type. -/
def get (network : Network P) (label var : String) (channel : Nat) (type : ValueType) :
    Except NetworkError Value :=
  (network.varId label var channel).bind fun id => network.getById id type

def value (network : Network P) (label var : String) (channel : Nat) :
    Except NetworkError Value :=
  (network.varId label var channel).bind network.valueById

def set [Processor P] (network : Network P) (label var : String) (channel : Nat)
    (value : Value) : Network P × Except NetworkError Unit :=
  match network.varId label var channel with
  | .error fault => (network, .error fault)
  | .ok id => network.setById id value

def channelCount (network : Network P) (label var : String) : Except NetworkError Nat :=
  (network.varId label var 0).map fun id => network.channelsAt id.proc id.var

def device? (network : Network P) (label : String) : Option Device :=
  network.devices.find? (·.label == label)

/-- The inside of a subnet, seen as a network that has run no cycle of its own. -/
def inside (network : Network P) (proc : Proc P) : Option (Network P) :=
  proc.inner?.map fun level => ⟨proc.label, level, network.store, [], network.timing, 0⟩

/-- The inside of the first proc with a label, if it is a subnet. -/
def child? (network : Network P) (label : String) : Option (Network P) :=
  (network.level.procs.find? (·.label == label)).bind network.inside

def descend? (network : Network P) : List String → Option (Network P)
  | [] => some network
  | label :: rest => (network.child? label).bind (descend? · rest)

/-- The channels of the variable of a proc that a label names. -/
def channels (network : Network P) (proc : Proc P) (label : String) : List Value :=
  network.store.labelled proc label

end Network

end SignalNet
