import SignalNet.Schema.Catalogue

/-!
Contract: from a catalogue to a class set.

A variable of a subnet stands for a variable of an inner proc. It takes that
variable's type, joins its flags, and takes its initial literal if it has none of
its own. Subnets are resolved in rounds, each as soon as all classes it refers to
are there, so the order of declaration does not matter. A subnet that contains
itself is refused.

Owns: the rounds, and the search for circular nesting.
-/

set_option autoImplicit false

namespace SignalNet

variable {P : Type}

/-- Take over what the inner variable says. -/
def Declaration.resolve (outer inner : Declaration) : Declaration where
  label := outer.label
  doc := outer.doc
  declared := inner.declared
  flags := outer.flags.union inner.flags
  initial := outer.initial.orElse fun _ => inner.initial
  inherited := outer.inherited || (outer.initial.isNone && inner.initial.isSome)
  target := outer.target

namespace Catalogue

/-- The inner variable that a variable of a subnet stands for. None means that the
inner class is a subnet which is not resolved yet. -/
def innerVariable (catalogue : Catalogue P) (set : ClassSet P) (className : String)
    (template : Template) (declaration : Declaration) :
    Except SchemaError (Option Declaration) :=
  match declaration.target with
  | none => .error (.missingTarget className declaration.label)
  | some target =>
      let notFound := SchemaError.targetNotFound className declaration.label target
      match template.proc? target.proc with
      | none => .error (notFound (.noProc target.proc))
      | some spec =>
          match set.get? spec.className with
          | none =>
              if catalogue.section? spec.className = some .subnet then .ok none
              else .error (notFound (.unknownClass spec.label spec.className))
          | some inner =>
              match inner.declaration? target.var with
              | none => .error (notFound (.noVariable inner.label target.var))
              | some found => .ok (some found)

/-- Resolve variables in turn. None means that one of them has to wait. -/
def resolveVariables (catalogue : Catalogue P) (set : ClassSet P) (className : String)
    (template : Template) : List Declaration → Except SchemaError (Option (List Declaration))
  | [] => .ok (some [])
  | declaration :: rest =>
      match catalogue.innerVariable set className template declaration with
      | .error fault => .error fault
      | .ok none => .ok none
      | .ok (some inner) =>
          (resolveVariables catalogue set className template rest).map fun resolved =>
            resolved.map (declaration.resolve inner :: ·)

/-- Resolve a subnet; none means that it has to wait. -/
def resolveSubnet (catalogue : Catalogue P) (set : ClassSet P)
    (subnet : ClassDescription P) : Except SchemaError (Option (ClassDescription P)) :=
  match subnet.template? with
  | none => .ok (some subnet)
  | some template =>
      (catalogue.resolveVariables set subnet.label template subnet.vars).map fun resolved =>
        resolved.map fun vars => { subnet with vars }

/-- One round: add every subnet that can be resolved, and keep those that have to
wait. -/
def resolveRound (catalogue : Catalogue P) (set : ClassSet P) :
    List (ClassDescription P) → Except SchemaError (ClassSet P × List (ClassDescription P))
  | [] => .ok (set, [])
  | subnet :: rest =>
      match catalogue.resolveSubnet set subnet with
      | .error fault => .error fault
      | .ok none =>
          (resolveRound catalogue set rest).map fun (set, waiting) => (set, subnet :: waiting)
      | .ok (some resolved) =>
          match set.insert resolved with
          | .error fault => .error fault
          | .ok larger => resolveRound catalogue larger rest

/-- Rounds until nothing waits. A round that resolves nothing ends the search. -/
def resolveAll (catalogue : Catalogue P) (set : ClassSet P)
    (pending : List (ClassDescription P)) : Except SchemaError (ClassSet P) :=
  match pending with
  | [] => .ok set
  | first :: rest =>
      match catalogue.resolveRound set (first :: rest) with
      | .error fault => .error fault
      | .ok (larger, waiting) =>
          if waiting.length < (first :: rest).length then
            resolveAll catalogue larger waiting
          else .error (.endlessTargets ((waiting.map (·.label)).headD first.label))
termination_by pending.length
decreasing_by assumption

/-- The plain classes in the order of their declaration. -/
def plainSet (catalogue : Catalogue P) : Except SchemaError (ClassSet P) :=
  catalogue.plain.foldlM (fun set description => set.insert description) .empty

end Catalogue

namespace ClassSet

def template? (set : ClassSet P) (label : String) : Option Template :=
  (set.get? label).bind (·.template?)

/-- Visit a class and all classes nested in it. `path` lists the subnets around it and
`cleared` those found free of circles; a subnet that meets itself on the path is
refused. A path has no repetition, so it is never longer than the set is large. -/
def visit (set : ClassSet P) :
    Nat → List String → List String → String → Except SchemaError (List String)
  | 0, _, cleared, _ => .ok cleared
  | depth + 1, path, cleared, label =>
      if label ∈ cleared then .ok cleared
      else if label ∈ path then
        .error (.badSyntax (below (below "subnets" label) "network") (.nestsItself path))
      else match set.template? label with
        | none => .ok cleared
        | some template =>
            (template.procs.foldlM (fun cleared spec =>
              visit set depth (path ++ [label]) cleared spec.className) cleared).map (label :: ·)

/-- Refuse subnets that contain themselves, directly or through others. -/
def checkNesting (set : ClassSet P) : Except SchemaError Unit :=
  ((set.classes.filter (·.isSubnet)).foldlM (fun cleared description =>
    set.visit (set.size + 1) [] cleared description.label) []).map fun _ => ()

end ClassSet

/-- The class set of a catalogue: plain classes first, then subnets in the order in
which they could be resolved. -/
def Catalogue.finish (catalogue : Catalogue P) : Except SchemaError (ClassSet P) := do
  let set ← catalogue.plainSet
  let set ← catalogue.resolveAll set catalogue.subnets
  set.checkNesting
  return set

end SignalNet
