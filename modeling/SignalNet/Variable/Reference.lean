/-!
Contract: written references to a variable of a proc.

A reference is the label of a proc, a period and the label of a variable. The
first period separates them, so variable labels may hold periods and proc labels
may not.
-/

set_option autoImplicit false

namespace SignalNet

/-- A variable of a proc, by labels. -/
structure VarRef where
  proc : String
  var : String
deriving DecidableEq, Repr, Inhabited

/-- What is wrong with a written reference. -/
inductive RefError where
  | noPeriod
  | emptyProc
  | emptyVariable
deriving DecidableEq, Repr

def RefError.message : RefError → String
  | noPeriod => "expected '<proc>.<var>': no period found"
  | emptyProc => "the proc label is empty"
  | emptyVariable => "the var label is empty"

namespace VarRef

def display (reference : VarRef) : String := reference.proc ++ "." ++ reference.var

/-- Split a text at its first period. -/
def splitPeriod : List Char → Option (List Char × List Char)
  | [] => none
  | c :: rest =>
      if c = '.' then some ([], rest)
      else (splitPeriod rest).map fun (before, after) => (c :: before, after)

/-- Read a reference; both labels have to be there. -/
def parse (text : String) : Except RefError VarRef :=
  match splitPeriod text.toList with
  | none => .error .noPeriod
  | some ([], _) => .error .emptyProc
  | some (_, []) => .error .emptyVariable
  | some (proc, var) => .ok ⟨String.ofList proc, String.ofList var⟩

end VarRef

end SignalNet
