/-!
Contract: the behaviour flags of variables.

A flag set is ten bits, one per flag. Its written form lists the tokens of the
flags in the order of the bits.
-/

set_option autoImplicit false

namespace SignalNet

/-- A behaviour of a variable. -/
inductive Flag where
  /-- The variable needs a connection. -/
  | source
  /-- The variable may have a connection. -/
  | optionalSource
  /-- The variable takes no connection. -/
  | noSource
  /-- The variable is read at construction only. -/
  | init
  /-- The variable may occur several times. -/
  | multiple
  /-- The variable is an output of a subnet. -/
  | out
  /-- The native implementation hears of changes. -/
  | notify
  | controlCreate
  | controlDisable
  | controlHide
deriving DecidableEq, Repr, Inhabited

namespace Flag

/-- All flags in the order of their bits. -/
def all : List Flag :=
  [source, optionalSource, noSource, init, multiple, out, notify,
    controlCreate, controlDisable, controlHide]

def bit : Flag → Nat
  | source => 0
  | optionalSource => 1
  | noSource => 2
  | init => 3
  | multiple => 4
  | out => 5
  | notify => 6
  | controlCreate => 7
  | controlDisable => 8
  | controlHide => 9

def token : Flag → String
  | source => "src"
  | optionalSource => "src_opt"
  | noSource => "no_src"
  | init => "init"
  | multiple => "mult"
  | out => "out"
  | notify => "notify"
  | controlCreate => "ui_create"
  | controlDisable => "ui_disable"
  | controlHide => "ui_hide"

def ofToken? (token : String) : Option Flag := all.find? (·.token == token)

end Flag

/-- A set of flags. -/
structure FlagSet where
  bits : BitVec 10
deriving DecidableEq, Repr, Inhabited

namespace FlagSet

def empty : FlagSet := ⟨0⟩

def single (flag : Flag) : FlagSet := ⟨BitVec.twoPow 10 flag.bit⟩

def union (left right : FlagSet) : FlagSet := ⟨left.bits ||| right.bits⟩

/-- The flags of the first set that the second lacks. -/
def difference (left right : FlagSet) : FlagSet := ⟨left.bits &&& ~~~right.bits⟩

/-- Whether the first set has all flags of the second. -/
def contains (left right : FlagSet) : Bool := left.bits &&& right.bits == right.bits

def has (flags : FlagSet) (flag : Flag) : Bool := flags.bits.getLsbD flag.bit

def isEmpty (flags : FlagSet) : Bool := flags.bits == 0

/-- The flags of a set in the order of their bits. -/
def toList (flags : FlagSet) : List Flag := Flag.all.filter flags.has

/-- The tokens of a set in the order of their bits. -/
def tokens (flags : FlagSet) : List String := flags.toList.map Flag.token

def ofList (flags : List Flag) : FlagSet :=
  flags.foldl (fun set flag => set.union (single flag)) empty

/-- A union has the flags of both sides, since it joins the bits. -/
theorem has_union (left right : FlagSet) (flag : Flag) :
    (left.union right).has flag = (left.has flag || right.has flag) := by
  simp [has, union]

/-- A difference has the flags of the first side that the second lacks. -/
theorem has_difference (left right : FlagSet) (flag : Flag) :
    (left.difference right).has flag = (left.has flag && !right.has flag) := by
  have below : flag.bit < 10 := by cases flag <;> decide
  simp [has, difference, below]

theorem has_single_self (flag : Flag) : (single flag).has flag = true := by
  cases flag <;> rfl

end FlagSet

end SignalNet
