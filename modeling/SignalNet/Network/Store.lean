import SignalNet.Network.Proc

/-!
Contract: what changes in a built network.

Every native proc has a cell: its processor and its bank. Variables are read and
written through terminals. A write goes to all terminals in turn; one that is refused
keeps the writes before it.
-/

set_option autoImplicit false

namespace SignalNet

/-- The state of a native proc. -/
structure Cell (P : Type) where
  processor : P
  bank : Bank

/-- The cells of a network by slot. -/
abbrev Store (P : Type) := List (Cell P)

variable {P : Type}

/-- Assign a value to a channel of a variable, and tell the processor if asked to.
None if there is no such channel. -/
def Cell.write [Processor P] (cell : Cell P) (notify : Bool) (var ch : Nat) (value : Value) :
    Except ValueError (Option (Cell P)) :=
  (cell.bank.assign var ch value).map fun stored? => stored?.map fun bank =>
    ⟨if notify then Processor.notify cell.processor var bank else cell.processor, bank⟩

namespace Store

def bank? (store : Store P) (slot : Nat) : Option Bank := store[slot]?.map (·.bank)

/-- The values of all channels that terminals lead to: those of the first. -/
def channels (store : Store P) : List Terminal → List Value
  | [] => []
  | terminal :: _ =>
      (((store.bank? terminal.slot).bind (·.vars[terminal.var]?)).map (·.channels)).getD []

/-- The values of all channels of the variable of a proc that a label names. Of several
variables with one label that is the first, as for every other address. -/
def labelled (store : Store P) (proc : Proc P) (label : String) : List Value :=
  match proc.variableIndex? label with
  | some var => store.channels (proc.terminals var)
  | none => []

def value? (store : Store P) (terminals : List Terminal) (ch : Nat) : Option Value :=
  (store.channels terminals)[ch]?

def channelCount (store : Store P) (terminals : List Terminal) : Nat :=
  (store.channels terminals).length

/-- Write a channel at all terminals in turn, until one refuses. The answer says whether
any of them has the channel. -/
def write [Processor P] (notify : Bool) (ch : Nat) (value : Value) :
    List Terminal → Store P → Store P × Except ValueError Bool
  | [], store => (store, .ok false)
  | terminal :: rest, store =>
      match store[terminal.slot]? with
      | none => write notify ch value rest store
      | some cell =>
          match cell.write notify terminal.var ch value with
          | .error fault => (store, .error fault)
          | .ok none => write notify ch value rest store
          | .ok (some changed) =>
              let (written, outcome) := write notify ch value rest (store.set terminal.slot changed)
              (written, outcome.map fun _ => true)

/-- Write the channels from `ch` on, each with its own value, until one refuses. -/
def writeChannels [Processor P] (terminals : List Terminal) :
    Nat → List Value → Store P → Store P × Except ValueError Unit
  | _, [], store => (store, .ok ())
  | ch, value :: rest, store =>
      match write false ch value terminals store with
      | (written, .error fault) => (written, .error fault)
      | (written, .ok _) => writeChannels terminals (ch + 1) rest written

end Store

end SignalNet
