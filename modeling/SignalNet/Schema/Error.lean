import SignalNet.Decimal.Notation
import SignalNet.Text.Quoted
import SignalNet.Toml.Tree
import SignalNet.Variable.Reference

/-!
Contract: what can be wrong with class descriptions.

Owns: the faults of entries, of descriptions and of their resolution, and their
messages.
-/

set_option autoImplicit false

namespace SignalNet

/-- A configuration value where another kind was wanted. -/
inductive Unexpected where
  | integer (n : Int64)
  | float (x : Float)
  | boolean (b : Bool)
  | string (text : String)
  | map
  | sequence
deriving DecidableEq

def Unexpected.describe : Unexpected → String
  | integer n => "integer `" ++ toString n.toInt ++ "`"
  | float x => "floating point `" ++ Decimal.pointed.double x ++ "`"
  | boolean b => "boolean `" ++ toString b ++ "`"
  | string text => "string " ++ Text.quoted text
  | map => "map"
  | sequence => "sequence"

/-- What was wanted in place of a configuration value. -/
inductive Wanted where
  | text
  | map
  | sequence
  | count
  | procEntry
  | classBody
  | variableEntry
deriving DecidableEq, Repr

def Wanted.describe : Wanted → String
  | text => "a string"
  | map => "a map"
  | sequence => "a sequence"
  | count => "usize"
  | procEntry => "struct ProcEntry"
  | classBody => "struct ClassBody"
  | variableEntry => "struct VarSpec"

/-- What is wrong with an entry that has a fixed set of fields. -/
inductive FieldFault where
  | unknown (field : String) (expected : List String)
  | missing (field : String)
  | invalidType (found : Unexpected) (wanted : Wanted)
  | negative (n : Int64)
  /-- A list of fields ends before one that has to be there. -/
  | tooShort (position : Nat) (wanted : Wanted) (fields : Nat)
  /-- A list of fields goes on behind the last one. -/
  | tooLong (length : Nat)
deriving DecidableEq

def backquoted (name : String) : String := "`" ++ name ++ "`"

def FieldFault.message : FieldFault → String
  | unknown field expected =>
      "unknown field " ++ backquoted field ++ ", expected one of " ++
        String.intercalate ", " (expected.map backquoted)
  | missing field => "missing field " ++ backquoted field
  | invalidType found wanted =>
      "invalid type: " ++ found.describe ++ ", expected " ++ wanted.describe
  | negative n =>
      "invalid value: " ++ (Unexpected.integer n).describe ++ ", expected " ++
        Wanted.count.describe
  | tooShort position wanted fields =>
      "invalid length " ++ toString position ++ ", expected " ++ wanted.describe ++ " with " ++
        toString fields ++ " elements"
  | tooLong length =>
      "invalid length " ++ toString length ++ ", expected fewer elements in array"

/-- What is wrong with the structure of a description. -/
inductive SyntaxFault where
  | unknownSection
  | sectionNotTable
  | networkOnPlain
  | networkMissing
  | presetNotTable
  | nestsItself (path : List String)
  | unknownNetworkKey
  | notTable (found : Toml.Kind)
  | connectionNotText
  | networkPresetNotTable
  | badPresetEntry (found : Toml.Kind)
  | nestedList
  | tableValue
  | datetimeValue
  | field (fault : FieldFault)
deriving DecidableEq

def SyntaxFault.message : SyntaxFault → String
  | unknownSection => "unknown section, expected 'classes' or 'subnets'"
  | sectionNotTable => "expected a table of classes"
  | networkOnPlain => "only subnet classes may declare a network"
  | networkMissing => "subnet must declare a network"
  | presetNotTable => "expected a table of variable values"
  | nestsItself path => "subnet nests itself via " ++ String.intercalate " -> " path
  | unknownNetworkKey => "unknown key, expected 'procs' or 'presets'"
  | notTable found => "expected a table, found " ++ found.label
  | connectionNotText => "connection must be a '<proc>.<var>' string"
  | networkPresetNotTable => "expected a table of proc presets"
  | badPresetEntry found =>
      "expected a class preset label or a table of values, found " ++ found.label
  | nestedList => "nested lists are not supported"
  | tableValue => "expected a value, found a table"
  | datetimeValue => "datetimes are not supported"
  | field fault => fault.message

/-- Which step of looking up the variable that a subnet variable stands for failed. -/
inductive TargetFault where
  | noProc (proc : String)
  | unknownClass (proc className : String)
  | noVariable (className var : String)
deriving DecidableEq, Repr

def TargetFault.message : TargetFault → String
  | noProc proc => "no proc '" ++ proc ++ "' in the subnet network"
  | unknownClass proc className =>
      "proc '" ++ proc ++ "' has unknown class '" ++ className ++ "'"
  | noVariable className var => "class '" ++ className ++ "' has no var '" ++ var ++ "'"

/-- What can be wrong with class descriptions. -/
inductive SchemaError where
  | unknownClass (label : String)
  | missingType (className var : String)
  | unknownType (className var label : String)
  | unknownFlag (className var flag : String)
  | missingDoc (className var : String)
  | malformedTarget (className var written : String) (fault : RefError)
  | missingTarget (className var : String)
  | targetNotFound (className var : String) (target : VarRef) (fault : TargetFault)
  | endlessTargets (className : String)
  | duplicateClass (label : String)
  | duplicateSubnet (label : String)
  | reservedLabel (label : String)
  | badSyntax (context : String) (fault : SyntaxFault)
deriving DecidableEq

/-- A variable of a class, as messages name it. -/
def classVariable (className var : String) : String :=
  "class '" ++ className ++ "' var '" ++ var ++ "'"

/-- A variable of a subnet, as messages name it. -/
def subnetVariable (className var : String) : String :=
  "subnet '" ++ className ++ "' var '" ++ var ++ "'"

def SchemaError.message : SchemaError → String
  | unknownClass label =>
      "unknown class '" ++ label ++ "': no native implementation is registered"
  | missingType className var => classVariable className var ++ ": missing type"
  | unknownType className var label =>
      classVariable className var ++ ": unrecognized type '" ++ label ++ "'"
  | unknownFlag className var flag =>
      classVariable className var ++ ": unrecognized flag '" ++ flag ++ "'"
  | missingDoc className var => classVariable className var ++ ": missing doc string"
  | malformedTarget className var written fault =>
      classVariable className var ++ ": malformed proxy '" ++ written ++ "': " ++ fault.message
  | missingTarget className var =>
      subnetVariable className var ++ " must have a proxy field"
  | targetNotFound className var target fault =>
      subnetVariable className var ++ ": proxy target not found (" ++ target.display ++ "): " ++
        fault.message
  | endlessTargets className =>
      "subnet '" ++ className ++ "': proxy resolution does not terminate"
  | duplicateClass label => "class '" ++ label ++ "' already exists"
  | duplicateSubnet label => "subnet '" ++ label ++ "' already exists"
  | reservedLabel label => "class label '" ++ label ++ "' is reserved"
  | badSyntax context fault => context ++ ": " ++ fault.message

end SignalNet
