import SignalNet.Native.Descriptions
import SignalNet.Proofs.Schema.Coherence
import SignalNet.Proofs.Schema.Declarations

/-!
Contract: what the variables of subnets inherit.

In a finished class set, a variable of a subnet says what its own description says and
what the variable that it stands for says, and the latter is looked up in the finished
set, whatever was there when the subnet was resolved. Since a description is resolved
against resolved ones, following the targets ends at a variable of a plain class.

Owns: one step of inheritance (`Declaration.Inherits`), the way from a variable to the
native one behind it (`Catalogue.Leads`), and that finished sets inherit along it.
-/

set_option autoImplicit false

namespace SignalNet

variable {P : Type}

/-! ## Finished sets list every class under its label -/

namespace ClassSet

variable {set larger : ClassSet P} {description : ClassDescription P}

theorem nodup_labels_insert (nodup : set.labels.Nodup)
    (inserted : set.insert description = .ok larger) : larger.labels.Nodup := by
  obtain ⟨fresh, rfl⟩ := insert_eq_ok.mp inserted
  rw [labels, List.map_append, List.nodup_append]
  refine ⟨nodup, List.nodup_singleton _, ?_⟩
  rintro label member _ isNew rfl
  obtain ⟨other, listed, same⟩ := List.mem_map.mp member
  have absent := List.find?_eq_none.mp fresh other listed
  rw [List.map_singleton, List.mem_singleton] at isNew
  simp [same, isNew] at absent

theorem get?_of_mem (nodup : set.labels.Nodup) (member : description ∈ set.classes) :
    set.get? description.label = some description := by
  cases found : set.get? description.label with
  | none =>
      have absent := List.find?_eq_none.mp found description member
      simp at absent
  | some other =>
      rw [List.inj_on_of_nodup_map nodup (List.mem_of_find?_eq_some found) member
        (label_of_get? found)]

end ClassSet

namespace Catalogue

variable {catalogue : Catalogue P} {set : ClassSet P}

theorem nodup_labels_resolveRound {pending waiting : List (ClassDescription P)}
    {larger : ClassSet P} (nodup : set.labels.Nodup)
    (round : catalogue.resolveRound set pending = .ok (larger, waiting)) :
    larger.labels.Nodup := by
  fun_induction resolveRound catalogue set pending generalizing waiting with
  | case1 set =>
      cases round
      exact nodup
  | case2 set subnet rest fault result => cases round
  | case3 set subnet rest result inductionHypothesis =>
      obtain ⟨⟨next, others⟩, restRound, same⟩ := map_eq_ok.mp round
      cases same
      exact inductionHypothesis nodup restRound
  | case4 set subnet rest resolved result fault inserted => cases round
  | case5 set subnet rest resolved result next inserted inductionHypothesis =>
      exact inductionHypothesis (ClassSet.nodup_labels_insert nodup inserted) round

theorem nodup_labels_resolveAll {pending : List (ClassDescription P)} {final : ClassSet P}
    (nodup : set.labels.Nodup) (completed : catalogue.resolveAll set pending = .ok final) :
    final.labels.Nodup := by
  fun_induction resolveAll catalogue set pending with
  | case1 set =>
      cases completed
      exact nodup
  | case2 set first rest fault round => cases completed
  | case3 set first rest larger waiting round fewer inductionHypothesis =>
      exact inductionHypothesis (nodup_labels_resolveRound nodup round) completed
  | case4 set first rest larger waiting round stuck => cases completed

theorem WellFormed.nodup_labels (wellFormed : catalogue.WellFormed)
    (finished : catalogue.finish = .ok set) : set.labels.Nodup := by
  have plain : (⟨catalogue.plain⟩ : ClassSet P).labels.Nodup :=
    (List.nodup_append.mp wellFormed.taken_nodup).1
  exact nodup_labels_resolveAll plain (wellFormed.finish_eq_ok.mp finished).1

end Catalogue

/-! ## One step -/

/-- A variable of a subnet says what it was read with, and what the variable that it
stands for says in the class set: it takes that one's type, joins its flags, and takes its
initial literal if it was read without one. -/
def Declaration.Inherits (classes : ClassSet P) (template : Template)
    (read final : Declaration) : Prop :=
  ∃ target spec inner found,
    read.target = some target ∧ template.proc? target.proc = some spec ∧
      classes.get? spec.className = some inner ∧ inner.declaration? target.var = some found ∧
        final.label = read.label ∧ final.target = some target ∧
          final.declared = found.declared ∧ final.flags = read.flags.union found.flags ∧
            final.initial = read.initial.or found.initial ∧
              final.inherited = (read.initial.isNone && found.initial.isSome)

theorem Declaration.Resolved.inherits {classes : ClassSet P} {template : Template}
    {read final : Declaration} (asRead : read.AsRead .subnet)
    (resolved : Declaration.Resolved classes.get? template read final) :
    Declaration.Inherits classes template read final := by
  obtain ⟨target, spec, inner, found, isTarget, isSpec, isInner, isFound, rfl⟩ := resolved
  refine ⟨target, spec, inner, found, isTarget, isSpec, isInner, isFound, rfl, isTarget, rfl, rfl,
    ?_, ?_⟩
  · cases initial : read.initial <;> simp [Declaration.resolve, initial]
  · rw [Declaration.resolve, asRead.2, Bool.false_or]

/-- A variable of a subnet has the flags that it was read with and those of the variable
that it stands for. -/
theorem Declaration.Inherits.has_eq {classes : ClassSet P} {template : Template}
    {read final found : Declaration} (inherits : Declaration.Inherits classes template read final)
    {target : VarRef} {spec : ProcSpec} {inner : ClassDescription P}
    (isTarget : final.target = some target) (isSpec : template.proc? target.proc = some spec)
    (isInner : classes.get? spec.className = some inner)
    (isFound : inner.declaration? target.var = some found) (flag : Flag) :
    final.has flag = (read.has flag || found.has flag) := by
  obtain ⟨target', spec', inner', found', -, isSpec', isInner', isFound', -, isTarget', -, flags,
    -, -⟩ := inherits
  obtain rfl := Option.some.inj (isTarget.symm.trans isTarget')
  obtain rfl := Option.some.inj (isSpec.symm.trans isSpec')
  obtain rfl := Option.some.inj (isInner.symm.trans isInner')
  obtain rfl := Option.some.inj (isFound.symm.trans isFound')
  rw [Declaration.has, flags, FlagSet.has_union]
  rfl

/-! ## The way to a native variable -/

/-- Following the targets from the variable at a position of a class: the declarations of
subnets on the way, each as it was read, and the variable of a plain class at the end. -/
inductive Catalogue.Leads (catalogue : Catalogue P) (classes : ClassSet P) :
    ClassDescription P → Nat → List Declaration → Declaration → Prop where
  | native {description : ClassDescription P} {position : Nat} {native : Declaration}
      (isPlain : description ∈ catalogue.plain)
      (listed : description.vars[position]? = some native) :
      Leads catalogue classes description position [] native
  | forward {description subnet inner : ClassDescription P} {position further : Nat}
      {template : Template} {read native : Declaration} {target : VarRef} {spec : ProcSpec}
      {stops : List Declaration} (isSubnet : subnet ∈ catalogue.subnets)
      (same : subnet.label = description.label)
      (hasTemplate : subnet.template? = some template)
      (listed : subnet.vars[position]? = some read) (isTarget : read.target = some target)
      (isSpec : template.proc? target.proc = some spec)
      (isInner : classes.get? spec.className = some inner)
      (isFound : inner.variableIndex? target.var = some further)
      (onward : Leads catalogue classes inner further stops native) :
      Leads catalogue classes description position (read :: stops) native

namespace Catalogue

variable {catalogue : Catalogue P} {classes : ClassSet P}

/-- There is only one way from a variable. -/
theorem Leads.unique (wellFormed : catalogue.WellFormed) {description : ClassDescription P}
    {position : Nat} {stops others : List Declaration} {native other : Declaration}
    (here : catalogue.Leads classes description position stops native)
    (there : catalogue.Leads classes description position others other) :
    stops = others ∧ native = other := by
  induction here generalizing others other with
  | native isPlain listed =>
      cases there with
      | native _ listed' => exact ⟨rfl, Option.some.inj (listed.symm.trans listed')⟩
      | forward isSubnet same _ _ _ _ _ _ _ =>
          exact (wellFormed.sections_apart isPlain isSubnet same.symm).elim
  | forward isSubnet same hasTemplate listed isTarget isSpec isInner isFound _
      inductionHypothesis =>
      cases there with
      | native isPlain _ => exact (wellFormed.sections_apart isPlain isSubnet same.symm).elim
      | forward isSubnet' same' hasTemplate' listed' isTarget' isSpec' isInner' isFound'
          onward' =>
          obtain rfl := wellFormed.subnet_unique isSubnet isSubnet' (same.trans same'.symm)
          obtain rfl := Option.some.inj (hasTemplate.symm.trans hasTemplate')
          obtain rfl := Option.some.inj (listed.symm.trans listed')
          obtain rfl := Option.some.inj (isTarget.symm.trans isTarget')
          obtain rfl := Option.some.inj (isSpec.symm.trans isSpec')
          obtain rfl := Option.some.inj (isInner.symm.trans isInner')
          obtain rfl := Option.some.inj (isFound.symm.trans isFound')
          obtain ⟨rfl, rfl⟩ := inductionHypothesis onward'
          exact ⟨rfl, rfl⟩

end Catalogue

/-- A variable carries what the way from it collects: the type of the native variable at the
end, the flags of all declarations, and the initial literal of the first one that has any. -/
structure Declaration.Collects (final : Declaration) (stops : List Declaration)
    (native : Declaration) : Prop where
  declared : final.declared = native.declared
  flags : final.flags =
    stops.foldr (fun stop flags => stop.flags.union flags) native.flags
  initial : final.initial = (stops ++ [native]).findSome? (·.initial)

namespace Catalogue.WellFormed

variable {catalogue : Catalogue P} {classes : ClassSet P}

theorem exists_leads (wellFormed : catalogue.WellFormed)
    (finished : catalogue.finish = .ok classes) {description : ClassDescription P}
    (settled : Settled catalogue description) {position : Nat} {final : Declaration}
    (listed : description.vars[position]? = some final) :
    ∃ stops native, catalogue.Leads classes description position stops native ∧
      final.Collects stops native := by
  obtain ⟨resolved, -⟩ := wellFormed.finish_eq_ok.mp finished
  induction settled generalizing position final with
  | plain member =>
      refine ⟨[], final, .native member listed, rfl, rfl, ?_⟩
      cases initial : final.initial <;> simp [initial]
  | @subnet subnet template vars known member isSubnet labelled settled each
      inductionHypothesis =>
      obtain ⟨read, isRead, target, spec, inner, found, isTarget, isSpec, isInner, isFound, rfl⟩ :=
        exists_getElem?_of_forall₂ each.flip listed
      have innerThere : classes.get? spec.className = some inner :=
        (wellFormed.get?_resolved resolved).mpr ⟨settled _ _ isInner, labelled _ _ isInner⟩
      rw [ClassDescription.declaration?_eq_bind] at isFound
      obtain ⟨further, isFurther, isVariable⟩ := Option.bind_eq_some_iff.mp isFound
      obtain ⟨stops, native, onward, collects⟩ := inductionHypothesis _ _ isInner isVariable
      refine ⟨read :: stops, native, .forward member rfl isSubnet isRead isTarget isSpec innerThere
        isFurther onward, collects.declared, ?_, ?_⟩
      · rw [List.foldr_cons, ← collects.flags]
        rfl
      · rw [List.cons_append, List.findSome?_cons, ← collects.initial]
        cases initial : read.initial <;> simp [Declaration.resolve, initial]

/-- The variables of a subnet of a finished set inherit from variables of that set. -/
theorem inherits (wellFormed : catalogue.WellFormed)
    (declared : catalogue.Each fun kind description =>
      ∀ declaration ∈ description.vars, declaration.AsRead kind)
    (finished : catalogue.finish = .ok classes) {label : String} {template : Template}
    {description : ClassDescription P} (found : classes.get? label = some description)
    (isSubnet : description.kind = .subnet template) :
    ∃ subnet ∈ catalogue.subnets, subnet.label = label ∧ subnet.kind = .subnet template ∧
      List.Forall₂ (Declaration.Inherits classes template) subnet.vars description.vars := by
  obtain ⟨resolved, -⟩ := wellFormed.finish_eq_ok.mp finished
  obtain ⟨subnet, member, sameLabel, sameKind, each⟩ :=
    wellFormed.subnet_of_get? resolved found isSubnet
  have both := (List.forall₂_and_left _ _).mpr ⟨declared.2 subnet member, each⟩
  exact ⟨subnet, member, sameLabel, sameKind, both.imp fun _ _ here => here.2.inherits here.1⟩

/-- Resolution keeps the labels of variables, so they stay distinct. -/
theorem nodup_vars (wellFormed : catalogue.WellFormed)
    (declared : catalogue.Each fun kind description =>
      ∀ declaration ∈ description.vars, declaration.AsRead kind)
    (distinct : catalogue.Each fun _ description => (description.vars.map (·.label)).Nodup)
    (finished : catalogue.finish = .ok classes) {label : String}
    {description : ClassDescription P} (found : classes.get? label = some description) :
    (description.vars.map (·.label)).Nodup := by
  cases kind : description.kind with
  | plain native =>
      obtain ⟨resolved, -⟩ := wellFormed.finish_eq_ok.mp finished
      exact distinct.1 _ (wellFormed.plain_of_get? resolved found kind)
  | subnet template =>
      obtain ⟨subnet, member, -, -, each⟩ := wellFormed.inherits declared finished found kind
      have labels : description.vars.map (·.label) = subnet.vars.map (·.label) :=
        map_eq_map_iff_forall₂.mpr
          (each.flip.imp fun _ _ ⟨_, _, _, _, _, _, _, _, sameLabel, _⟩ => sameLabel)
      rw [labels]
      exact distinct.2 subnet member

end Catalogue.WellFormed

/-- In the class set that any tables finish with, all variables are typed. Those of plain
classes stand for no other variable and are no outputs of a subnet. Those of subnets inherit
from the variables that they stand for, as the finished set describes them. From each there
is exactly one way to a variable of a plain class, and it collects the type at its end, the
flags of all declarations on it, and the first initial literal. -/
theorem inherits_of_finish (registry : Registry P) (tables : List (List (String × Toml)))
    {classes : ClassSet P}
    (finished : ((Catalogue.empty registry).addTables tables).finish = .ok classes) :
    let catalogue := (Catalogue.empty registry).addTables tables
    ∀ description ∈ classes.classes, classes.get? description.label = some description ∧
      (∀ declaration ∈ description.vars, declaration.declared.isSome = true) ∧
      (∀ native, description.kind = .plain native → ∀ declaration ∈ description.vars,
        declaration.target = none ∧ declaration.has .out = false) ∧
      (∀ template, description.kind = .subnet template → ∃ subnet ∈ catalogue.subnets,
        subnet.label = description.label ∧ subnet.kind = .subnet template ∧
          List.Forall₂ (Declaration.Inherits classes template) subnet.vars description.vars) ∧
      ∀ position final, description.vars[position]? = some final →
        ∃ stops native, catalogue.Leads classes description position stops native ∧
          final.Collects stops native ∧
            ∀ others other, catalogue.Leads classes description position others other →
              others = stops ∧ other = native := by
  intro catalogue description member
  obtain ⟨wellFormed, -⟩ := Catalogue.wellFormed_addTables registry tables
  have declared := Catalogue.declared_addTables registry tables
  have found := ClassSet.get?_of_mem (wellFormed.nodup_labels finished) member
  obtain ⟨resolved, -⟩ := wellFormed.finish_eq_ok.mp finished
  obtain ⟨settled, -⟩ := (wellFormed.get?_resolved resolved).mp found
  refine ⟨found, (wellFormed.coherent finished).declared _ _ found, ?_,
    fun template isSubnet => wellFormed.inherits declared finished found isSubnet, ?_⟩
  · intro native isPlain declaration listed
    have inCatalogue := wellFormed.plain_of_get? resolved found isPlain
    exact (declared.1 _ inCatalogue declaration listed).2
  · intro position final listed
    obtain ⟨stops, native, leads, collects⟩ := wellFormed.exists_leads finished settled listed
    refine ⟨stops, native, leads, collects, fun others other different => ?_⟩
    exact different.unique wellFormed leads

namespace Shells

/-- A subnet with one proc and some variables. -/
def shell (label : String) (proc : List (String × Toml)) (vars : List (String × Toml)) :
    String × Toml :=
  (label, .table [("network", .table [("procs", .table [("core", .table proc)])]),
    ("vars", .table vars)])

def standsFor (label target : String) (further : List (String × Toml)) : String × Toml :=
  (label, .table ([("doc", .string ""), ("proxy", .string target)] ++ further))

/-- A class with a required input, a shell around it, and a shell around two voices of
that, which declares a flag and a literal of its own. -/
def tables : List (List (String × Toml)) :=
  let number := fun (label : String) (further : List (String × Toml)) =>
    Descriptions.described label "double" "" further
  let inner := shell "inner" [("class", .string "number")] [standsFor "level" "core.value" []]
  let outer := shell "outer" [("class", .string "inner"), ("poly_cnt", .integer 2)]
    [standsFor "level" "core.level" (Descriptions.flagged ["notify"] ++ Descriptions.startsAt 1)]
  [[("classes", .table
      [Descriptions.plainClass "number"
          [number "value" (Descriptions.flagged ["src"]), number "out" []],
        Descriptions.plainClass "counter" [number "inc" [], number "limit" [], number "out" []]])],
    [("subnets", .table [inner, outer])]]

/-- The inside of a shell. -/
def core (className : String) (voices : Option Nat) : Template :=
  ⟨[⟨"core", className, .empty, [], none, voices, none⟩], []⟩

/-- The outer shell, finished. -/
def outer : ClassDescription Builtin :=
  ⟨"outer", [⟨"level", "", some .double, .ofList [.source, .notify], some (.float 1), false,
    some ⟨"core", "level"⟩⟩], [], .subnet (core "inner" (some 2)), none⟩

/-- The class set that the tables finish with. -/
def classes : ClassSet Builtin :=
  let number := fun (label : String) (flags : FlagSet) =>
    (⟨label, "", some .double, flags, none, false, none⟩ : Declaration)
  ⟨[⟨"number", [number "value" (.single .source), number "out" .empty], [],
      .plain Builtin.numberClass, none⟩,
    ⟨"counter", [number "inc" .empty, number "limit" .empty, number "out" .empty], [],
      .plain Builtin.counterClass, none⟩,
    ⟨"inner", [⟨"level", "", some .double, .single .source, none, false, some ⟨"core", "value"⟩⟩],
      [], .subnet (core "number" none), none⟩,
    outer]⟩

theorem finish_eq :
    ((Catalogue.empty Registry.builtin).addTables tables).finish = .ok classes :=
  (Catalogue.wellFormed_addTables Registry.builtin tables).1.finish_eq_ok.mpr
    ⟨Catalogue.resolveAll_of_resolveRound rfl, rfl⟩

end Shells

/-- The variable of the outer shell collects from a way with two stops. -/
theorem shells_inherit :
    let catalogue := (Catalogue.empty Registry.builtin).addTables Shells.tables
    catalogue.finish = .ok Shells.classes ∧ Shells.outer ∈ Shells.classes.classes ∧
      ∃ final stops native, Shells.outer.vars = [final] ∧
        catalogue.Leads Shells.classes Shells.outer 0 stops native ∧
          final.Collects stops native ∧
            stops.map (·.label) = ["level", "level"] ∧ native.label = "value" := by
  intro catalogue
  have member : Shells.outer ∈ Shells.classes.classes := List.mem_of_getElem? (i := 3) rfl
  obtain ⟨-, -, -, -, ways⟩ :=
    inherits_of_finish Registry.builtin Shells.tables Shells.finish_eq _ member
  obtain ⟨stops, native, leads, collects, only⟩ := ways 0 _ rfl
  have isWay : catalogue.Leads Shells.classes Shells.outer 0 _ _ :=
    .forward (List.mem_of_getElem? (i := 1) rfl) rfl rfl rfl rfl rfl rfl rfl
      (.forward (List.mem_of_getElem? (i := 0) rfl) rfl rfl rfl rfl rfl rfl rfl
        (.native (List.mem_of_getElem? (i := 0) rfl) rfl))
  obtain ⟨rfl, rfl⟩ := only _ _ isWay
  exact ⟨Shells.finish_eq, member, _, _, _, rfl, leads, collects, rfl, rfl⟩

end SignalNet
