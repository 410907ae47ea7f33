import SignalNet.Class.Template
import SignalNet.Native.Processor
import SignalNet.Schema.Error

/-!
Contract: classes of procs, and sets of classes.

A class is plain, backed by a native implementation, or a subnet, backed by the
template of an inner network. A class set holds classes under distinct labels, in
the order in which they were added.
-/

set_option autoImplicit false

namespace SignalNet

/-- What stands behind a class. -/
inductive ClassKind (P : Type) where
  | plain (native : NativeClass P)
  | subnet (template : Template)

/-- A preset of a class. -/
structure ClassPreset where
  label : String
  body : Assignments
deriving Inhabited

/-- The description of a class. -/
structure ClassDescription (P : Type) where
  label : String
  vars : List Declaration
  presets : List ClassPreset
  kind : ClassKind P
  /-- The most procs of the class that one network may have. -/
  polyLimit : Option Nat

namespace ClassDescription

variable {P : Type}

def declaration? (description : ClassDescription P) (label : String) : Option Declaration :=
  description.vars.find? (·.label == label)

/-- The position of the first variable with a label. -/
def variableIndex? (description : ClassDescription P) (label : String) : Option Nat :=
  description.vars.findIdx? (·.label == label)

def preset? (description : ClassDescription P) (label : String) : Option Assignments :=
  (description.presets.find? (·.label == label)).map (·.body)

/-- The inner network of a subnet. -/
def template? (description : ClassDescription P) : Option Template :=
  match description.kind with
  | .subnet template => some template
  | .plain _ => none

def isSubnet (description : ClassDescription P) : Bool := description.template?.isSome

end ClassDescription

/-- Classes under distinct labels. -/
structure ClassSet (P : Type) where
  classes : List (ClassDescription P)

namespace ClassSet

variable {P : Type}

def empty : ClassSet P := ⟨[]⟩

/-- The class with a label. -/
def get? (set : ClassSet P) (label : String) : Option (ClassDescription P) :=
  set.classes.find? (·.label == label)

def contains (set : ClassSet P) (label : String) : Bool := (set.get? label).isSome

def labels (set : ClassSet P) : List String := set.classes.map (·.label)

def size (set : ClassSet P) : Nat := set.classes.length

/-- Add a class under a label that is not taken. -/
def insert (set : ClassSet P) (description : ClassDescription P) :
    Except SchemaError (ClassSet P) :=
  if set.contains description.label then
    .error (if description.isSubnet then .duplicateSubnet description.label
      else .duplicateClass description.label)
  else .ok ⟨set.classes ++ [description]⟩

end ClassSet

end SignalNet
