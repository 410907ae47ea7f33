import SignalNet.Proofs.Schema.Settled

/-!
Contract: the variables of a finished class set are typed.

Variables of plain classes carry a type, and a variable of a subnet carries the type of
the inner variable that it stands for. Both the inner class and its variable are in the
set, so a network that is built over the set never meets a variable of unknown type.

Owns: `ClassSet.Coherent`, and that finishing a catalogue yields a coherent set.
-/

set_option autoImplicit false

namespace SignalNet

variable {P : Type}

/-- A variable of a subnet has the type of the inner variable that it stands for. -/
def Declaration.Forwarded (classes : ClassSet P) (template : Template)
    (declaration : Declaration) : Prop :=
  ∃ target spec inner found, declaration.target = some target ∧
    template.proc? target.proc = some spec ∧ classes.get? spec.className = some inner ∧
      inner.declaration? target.var = some found ∧ declaration.declared = found.declared

/-- All variables of a class set are typed, plain classes are registered, and subnets
forward to classes of the set. -/
structure ClassSet.Coherent (classes : ClassSet P) (registry : Registry P) : Prop where
  declared : ∀ label description, classes.get? label = some description →
    ∀ declaration ∈ description.vars, declaration.declared.isSome = true
  registered : ∀ label description native, classes.get? label = some description →
    description.kind = .plain native → registry.get? description.label = some native
  forwarded : ∀ label description template, classes.get? label = some description →
    description.kind = .subnet template →
      ∀ declaration ∈ description.vars, declaration.Forwarded classes template

theorem ClassDescription.mem_of_declaration? {description : ClassDescription P} {label : String}
    {declaration : Declaration} (found : description.declaration? label = some declaration) :
    declaration ∈ description.vars :=
  List.mem_of_find?_eq_some found

theorem ClassDescription.declaration?_eq_bind (description : ClassDescription P) (label : String) :
    description.declaration? label =
      (description.variableIndex? label).bind (description.vars[·]?) :=
  List.find?_eq_bind_findIdx?_getElem?

/-- Where labels are distinct, a variable is found at its position. -/
theorem ClassDescription.variableIndex?_label {description : ClassDescription P}
    (nodup : (description.vars.map (·.label)).Nodup) {var : Nat} {declaration : Declaration}
    (listed : description.vars[var]? = some declaration) :
    description.variableIndex? declaration.label = some var := by
  obtain ⟨below, rfl⟩ := List.getElem?_eq_some_iff.mp listed
  refine List.findIdx?_eq_some_iff_getElem.mpr ⟨below, beq_self_eq_true _, fun earlier before => ?_⟩
  have differs : (description.vars[earlier]).label ≠ (description.vars[var]).label := by
    have apart := List.pairwise_iff_getElem.mp nodup earlier var (by simp; omega) (by simpa) before
    simpa using apart
  simpa using differs

namespace Catalogue.WellFormed

variable {catalogue : Catalogue P}

theorem declared_of_settled (wellFormed : catalogue.WellFormed)
    {description : ClassDescription P} (settled : Settled catalogue description) :
    ∀ declaration ∈ description.vars, declaration.declared.isSome = true := by
  induction settled with
  | plain member =>
      obtain ⟨native, -, -, typed⟩ := wellFormed.plainBacked _ member
      exact typed
  | subnet _ _ _ _ resolved inductionHypothesis =>
      intro declaration member
      obtain ⟨outer, -, target, spec, inner, found, -, -, known, isFound, rfl⟩ :=
        exists_of_mem_forall₂ resolved member
      exact inductionHypothesis _ _ known found (ClassDescription.mem_of_declaration? isFound)

variable {classes : ClassSet P}

/-- What stands under a label once all subnets are resolved and is plain was read so. -/
theorem plain_of_get? (wellFormed : catalogue.WellFormed)
    (resolved : catalogue.resolveAll ⟨catalogue.plain⟩ catalogue.subnets = .ok classes)
    {label : String} {description : ClassDescription P}
    (found : classes.get? label = some description) {native : NativeClass P}
    (isPlain : description.kind = .plain native) : description ∈ catalogue.plain := by
  cases ((wellFormed.get?_resolved resolved).mp found).1 with
  | plain member => exact member
  | subnet member _ _ _ _ =>
      obtain ⟨template, isSubnet⟩ := wellFormed.subnetBacked _ member
      simp only [isSubnet] at isPlain
      cases isPlain

/-- What stands under a label once all subnets are resolved and is a subnet was read with
the same network, and its variables are resolved against the set that it stands in. -/
theorem subnet_of_get? (wellFormed : catalogue.WellFormed)
    (resolved : catalogue.resolveAll ⟨catalogue.plain⟩ catalogue.subnets = .ok classes)
    {label : String} {description : ClassDescription P}
    (found : classes.get? label = some description) {template : Template}
    (isSubnet : description.kind = .subnet template) :
    ∃ subnet ∈ catalogue.subnets, subnet.label = label ∧ subnet.kind = .subnet template ∧
      List.Forall₂ (Declaration.Resolved classes.get? template) subnet.vars description.vars := by
  obtain ⟨settled, sameLabel⟩ := (wellFormed.get?_resolved resolved).mp found
  cases settled with
  | plain member =>
      obtain ⟨native, -, isPlain, -⟩ := wellFormed.plainBacked _ member
      rw [isPlain] at isSubnet
      cases isSubnet
  | @subnet subnet inner vars known member hasTemplate labelled settled each =>
      have isInner : subnet.template? = some template := by
        rw [ClassDescription.template?, isSubnet]
      obtain rfl := Option.some.inj (hasTemplate.symm.trans isInner)
      refine ⟨subnet, member, sameLabel, isSubnet, each.imp fun _ _ here => here.mono ?_⟩
      exact fun label description isKnown => (wellFormed.get?_resolved resolved).mpr
        ⟨settled _ _ isKnown, labelled _ _ isKnown⟩

theorem coherent (wellFormed : catalogue.WellFormed)
    (finished : catalogue.finish = .ok classes) : classes.Coherent catalogue.registry := by
  obtain ⟨resolved, -⟩ := wellFormed.finish_eq_ok.mp finished
  refine ⟨?_, ?_, ?_⟩
  · intro label description found
    exact wellFormed.declared_of_settled ((wellFormed.get?_resolved resolved).mp found).1
  · intro label description native found isPlain
    obtain ⟨registered, isRegistered, kind, -⟩ :=
      wellFormed.plainBacked _ (wellFormed.plain_of_get? resolved found isPlain)
    rw [kind] at isPlain
    cases isPlain
    exact isRegistered
  · intro label description template found isSubnet declaration listed
    obtain ⟨subnet, -, -, -, each⟩ := wellFormed.subnet_of_get? resolved found isSubnet
    obtain ⟨read, -, target, spec, inner, variable_, isTarget, isSpec, isInner, isFound, rfl⟩ :=
      exists_of_mem_forall₂ each listed
    exact ⟨target, spec, inner, variable_, isTarget, isSpec, isInner, isFound, rfl⟩

end Catalogue.WellFormed

end SignalNet
