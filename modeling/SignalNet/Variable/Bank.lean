import SignalNet.Variable.Declaration

/-!
Contract: the variables of one native proc.

A bank has one variable per declaration of the class, in the same order, and a
variable has one value per channel. Operations that fail midway keep what they
had stored, so they answer with the bank as well as with the outcome.
-/

set_option autoImplicit false

namespace SignalNet

/-- A variable with one value per channel. -/
structure Variable where
  label : String
  type : ValueType
  flags : FlagSet
  channels : List Value
deriving Inhabited

namespace Variable

/-- Assign a literal to the channels from `ch` on, until one of them refuses. -/
def assignFrom (type : ValueType) (literal : Literal) :
    Nat → List Value → List Value × Except ValueError Unit
  | _, [] => ([], .ok ())
  | ch, old :: rest =>
      match literal.channel? ch with
      | none =>
          let (stored, outcome) := assignFrom type literal (ch + 1) rest
          (old :: stored, outcome)
      | some item =>
          match item.toValue type with
          | .error fault => (old :: rest, .error fault)
          | .ok value =>
              let (stored, outcome) := assignFrom type literal (ch + 1) rest
              (value :: stored, outcome)

/-- Assign a literal to every channel that it reaches. -/
def assignLiteral (entry : Variable) (literal : Literal) :
    Variable × Except ValueError Unit :=
  let (channels, outcome) := assignFrom entry.type literal 0 entry.channels
  (⟨entry.label, entry.type, entry.flags, channels⟩, outcome)

/-- Change the number of channels, at least to one. New channels copy the first. -/
def resize (entry : Variable) (count : Nat) : Variable :=
  let wanted := max count 1
  let first := entry.channels.headD (Value.zero entry.type)
  ⟨entry.label, entry.type, entry.flags,
    entry.channels.take wanted ++ List.replicate (wanted - entry.channels.length) first⟩

/-- A variable of one channel with the value that its declaration asks for. -/
def ofDeclaration (declaration : Declaration) : Except ValueError Variable :=
  let start : Variable :=
    ⟨declaration.label, declaration.type, declaration.flags, [Value.zero declaration.type]⟩
  match declaration.initial with
  | none => .ok start
  | some literal =>
      let (entry, outcome) := start.assignLiteral literal
      outcome.map fun _ => entry

end Variable

/-- The variables of a native proc, in the order of their declarations. -/
structure Bank where
  vars : List Variable
deriving Inhabited

namespace Bank

/-- One variable per declaration. A fault names the variable whose initial literal
did not convert. -/
def ofDeclarations : List Declaration → Except (String × ValueError) Bank
  | [] => .ok ⟨[]⟩
  | declaration :: rest =>
      match Variable.ofDeclaration declaration with
      | .error fault => .error (declaration.label, fault)
      | .ok entry => (ofDeclarations rest).map fun bank => ⟨entry :: bank.vars⟩

def size (bank : Bank) : Nat := bank.vars.length

/-- The position of the first variable with a label. -/
def indexOf? (bank : Bank) (label : String) : Option Nat :=
  bank.vars.findIdx? (·.label == label)

def get? (bank : Bank) (index ch : Nat) : Option Value :=
  bank.vars[index]?.bind (·.channels[ch]?)

/-- The number of channels of a variable, zero without the variable. -/
def channelCount (bank : Bank) (index : Nat) : Nat :=
  (bank.vars[index]?.map (·.channels.length)).getD 0

def modify (bank : Bank) (index : Nat) (f : Variable → Variable) : Bank :=
  ⟨bank.vars.modify index f⟩

/-- Put a value into a channel of a variable, if both exist. -/
def set (bank : Bank) (index ch : Nat) (value : Value) : Bank :=
  bank.modify index fun old => ⟨old.label, old.type, old.flags, old.channels.set ch value⟩

def setChannelCount (bank : Bank) (index count : Nat) : Bank :=
  bank.modify index (·.resize count)

/-- The numeric view of a channel, zero where there is none. -/
def number (bank : Bank) (index ch : Nat) : Float :=
  ((bank.get? index ch).bind Value.number?).getD 0

/-- Store a number in a channel, converted to the type of the value there. -/
def setNumber (bank : Bank) (index ch : Nat) (x : Float) : Except ValueError Bank :=
  match bank.get? index ch with
  | none => .ok bank
  | some old => (Value.ofNumber old.type x).map (bank.set index ch)

/-- Assign a value to a channel; none if there is no such channel. -/
def assign (bank : Bank) (index ch : Nat) (source : Value) :
    Except ValueError (Option Bank) :=
  match bank.get? index ch with
  | none => .ok none
  | some old => (old.assign source).map fun value => some (bank.set index ch value)

/-- The audio of a variable, which its first channel holds. -/
def audio? (bank : Bank) (index : Nat) : Option AudioBlock :=
  match bank.get? index 0 with
  | some (.audio block) => some block
  | _ => none

def setAudio (bank : Bank) (index : Nat) (block : AudioBlock) : Bank :=
  bank.set index 0 (.audio block)

/-- The audio of two different variables. -/
def audioPair? (bank : Bank) (input output : Nat) : Option (AudioBlock × AudioBlock) :=
  if input = output then none
  else match bank.audio? input, bank.audio? output with
    | some source, some sink => some (source, sink)
    | _, _ => none

def allocateAudio (bank : Bank) (index channels frames : Nat) : Bank :=
  match bank.audio? index with
  | some _ => bank.setAudio index (AudioBlock.silent channels frames)
  | none => bank

/-- Apply a construction literal: a list sizes the channels first. -/
def applyLiteral (bank : Bank) (index : Nat) (literal : Literal) :
    Bank × Except ValueError Unit :=
  match bank.vars[index]? with
  | none => (bank, .ok ())
  | some old =>
      let sized := match literal.listLength? with
        | some count => old.resize count
        | none => old
      let (stored, outcome) := sized.assignLiteral literal
      (⟨bank.vars.set index stored⟩, outcome)

end Bank

end SignalNet
