import SignalNet.Value.Literal
import SignalNet.Variable.Flag
import SignalNet.Variable.Reference

/-!
Contract: what a class says about one of its variables.
-/

set_option autoImplicit false

namespace SignalNet

/-- The description of a variable of a class. -/
structure Declaration where
  label : String
  doc : String
  /-- The type as far as it is known: a variable of a subnet takes its type from the
  variable that it stands for. -/
  declared : Option ValueType
  flags : FlagSet
  initial : Option Literal
  /-- The initial literal came from the variable that this one stands for. -/
  inherited : Bool
  /-- The inner variable that a variable of a subnet stands for. -/
  target : Option VarRef
deriving Inhabited

/-- The type of a variable; a variable of unknown type holds double-precision numbers. -/
def Declaration.type (declaration : Declaration) : ValueType := declaration.declared.getD .double

def Declaration.has (declaration : Declaration) (flag : Flag) : Bool := declaration.flags.has flag

end SignalNet
