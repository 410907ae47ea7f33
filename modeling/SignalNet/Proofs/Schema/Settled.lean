import SignalNet.Proofs.Schema.Reading

/-!
Contract: what a class of a catalogue resolves to, apart from any order.

A description is settled if it is a plain class of the catalogue, or a subnet whose
variables are resolved against settled descriptions. Nothing in this says when a subnet
is looked at. Every label has at most one settled description, and the rounds of the
resolution find exactly the settled ones.

Owns: resolved variables (`Declaration.Resolved`), settled descriptions (`Settled`), what
holds between rounds (`Stage`), and the agreement of rounds and settled descriptions
(`resolveAll_spec`, `exists_resolveAll`).
-/

set_option autoImplicit false

namespace SignalNet

variable {P : Type}

/-! ## Class sets -/

namespace ClassSet

variable {set larger : ClassSet P} {description : ClassDescription P}

theorem label_of_get? {label : String} (found : set.get? label = some description) :
    description.label = label := by
  simpa using List.find?_some found

theorem insert_eq_ok :
    set.insert description = .ok larger ↔
      set.get? description.label = none ∧ larger = ⟨set.classes ++ [description]⟩ := by
  unfold insert contains
  cases set.get? description.label with
  | none => simp [eq_comm]
  | some other => simp

theorem get?_append (classes : List (ClassDescription P)) (label : String) :
    (⟨classes ++ [description]⟩ : ClassSet P).get? label =
      ((⟨classes⟩ : ClassSet P).get? label).or
        (if description.label = label then some description else none) := by
  simp only [get?, List.find?_append, List.find?_singleton, beq_iff_eq]

theorem get?_insert (inserted : set.insert description = .ok larger) (label : String) :
    larger.get? label =
      if description.label = label then some description else set.get? label := by
  obtain ⟨fresh, rfl⟩ := insert_eq_ok.mp inserted
  rw [get?_append]
  by_cases same : description.label = label
  · subst same
    rw [fresh, if_pos rfl, Option.none_or]
  · rw [if_neg same, if_neg same, Option.or_none]

end ClassSet

/-! ## Resolved variables -/

/-- A variable of a subnet takes over what the variable it stands for says, as far as
classes are known. -/
def Declaration.Resolved (known : String → Option (ClassDescription P)) (template : Template)
    (declaration resolved : Declaration) : Prop :=
  ∃ target spec inner found, declaration.target = some target ∧
    template.proc? target.proc = some spec ∧ known spec.className = some inner ∧
      inner.declaration? target.var = some found ∧ resolved = declaration.resolve found

namespace Declaration.Resolved

variable {known other : String → Option (ClassDescription P)} {template : Template}
  {declaration resolved : Declaration}

theorem mono (here : Resolved known template declaration resolved)
    (included : ∀ label description, known label = some description →
      other label = some description) : Resolved other template declaration resolved := by
  obtain ⟨target, spec, inner, found, isTarget, isSpec, isInner, isFound, result⟩ := here
  exact ⟨target, spec, inner, found, isTarget, isSpec, included _ _ isInner, isFound, result⟩

theorem unique (here : Resolved known template declaration resolved) {different : Declaration}
    (there : Resolved other template declaration different)
    (agree : ∀ label left right, known label = some left → other label = some right →
      left = right) : resolved = different := by
  obtain ⟨target, spec, inner, found, isTarget, isSpec, isInner, isFound, rfl⟩ := here
  obtain ⟨target', spec', inner', found', isTarget', isSpec', isInner', isFound', rfl⟩ := there
  obtain rfl := Option.some.inj (isTarget.symm.trans isTarget')
  obtain rfl := Option.some.inj (isSpec.symm.trans isSpec')
  obtain rfl := agree _ _ _ isInner isInner'
  obtain rfl := Option.some.inj (isFound.symm.trans isFound')
  rfl

end Declaration.Resolved

theorem forall₂_resolved_unique {known other : String → Option (ClassDescription P)}
    {template : Template} {vars resolved different : List Declaration}
    (here : List.Forall₂ (Declaration.Resolved known template) vars resolved)
    (there : List.Forall₂ (Declaration.Resolved other template) vars different)
    (agree : ∀ label left right, known label = some left → other label = some right →
      left = right) : resolved = different := by
  induction here generalizing different with
  | nil =>
      cases there
      rfl
  | cons first _ inductionHypothesis =>
      cases there with
      | cons first' others' =>
          rw [first.unique first' agree, inductionHypothesis others']

namespace Catalogue

variable {catalogue : Catalogue P} {set : ClassSet P}

theorem innerVariable_eq_some {className : String} {template : Template}
    {declaration found : Declaration} :
    catalogue.innerVariable set className template declaration = .ok (some found) ↔
      ∃ target spec inner, declaration.target = some target ∧
        template.proc? target.proc = some spec ∧ set.get? spec.className = some inner ∧
          inner.declaration? target.var = some found := by
  unfold innerVariable
  cases isTarget : declaration.target with
  | none => simp
  | some target =>
      cases isSpec : template.proc? target.proc with
      | none => simp [isSpec]
      | some spec =>
          cases isInner : set.get? spec.className with
          | none =>
              simp only [isSpec, isInner]
              split <;> simp [isSpec, isInner]
          | some inner =>
              cases isFound : inner.declaration? target.var with
              | none => simp [isSpec, isInner, isFound]
              | some found => simp [isSpec, isInner, isFound]

theorem resolveVariables_eq_some {className : String} {template : Template}
    {vars resolved : List Declaration} :
    catalogue.resolveVariables set className template vars = .ok (some resolved) ↔
      List.Forall₂ (Declaration.Resolved set.get? template) vars resolved := by
  induction vars generalizing resolved with
  | nil => simp [resolveVariables, eq_comm]
  | cons declaration rest inductionHypothesis =>
      rw [resolveVariables, List.forall₂_cons_left_iff]
      constructor
      · intro completed
        cases result : catalogue.innerVariable set className template declaration with
        | error fault =>
            rw [result] at completed
            cases completed
        | ok found? =>
            rw [result] at completed
            cases found? with
            | none => cases completed
            | some found =>
                obtain ⟨others?, restDone, joined⟩ := map_eq_ok.mp completed
                obtain ⟨others, rfl, rfl⟩ := Option.map_eq_some_iff.mp joined
                obtain ⟨target, spec, inner, isTarget, isSpec, isInner, isFound⟩ :=
                  innerVariable_eq_some.mp result
                exact ⟨_, others, ⟨target, spec, inner, found, isTarget, isSpec, isInner, isFound,
                  rfl⟩, inductionHypothesis.mp restDone, rfl⟩
      · rintro ⟨_, others, ⟨target, spec, inner, found, isTarget, isSpec, isInner, isFound, rfl⟩,
          restResolved, rfl⟩
        rw [innerVariable_eq_some.mpr ⟨target, spec, inner, isTarget, isSpec, isInner, isFound⟩,
          inductionHypothesis.mpr restResolved]
        rfl

theorem resolveSubnet_eq_some {subnet resolved : ClassDescription P} {template : Template}
    (isSubnet : subnet.template? = some template) :
    catalogue.resolveSubnet set subnet = .ok (some resolved) ↔
      ∃ vars, List.Forall₂ (Declaration.Resolved set.get? template) subnet.vars vars ∧
        resolved = { subnet with vars } := by
  simp only [resolveSubnet, isSubnet]
  constructor
  · intro completed
    obtain ⟨vars?, each, joined⟩ := map_eq_ok.mp completed
    obtain ⟨vars, rfl, rfl⟩ := Option.map_eq_some_iff.mp joined
    exact ⟨vars, resolveVariables_eq_some.mp each, rfl⟩
  · rintro ⟨vars, each, rfl⟩
    rw [resolveVariables_eq_some.mpr each]
    rfl

end Catalogue

/-! ## Settled descriptions -/

/-- What the classes of a catalogue resolve to: plain classes to themselves, and subnets
once their variables are resolved against settled descriptions. -/
inductive Settled (catalogue : Catalogue P) : ClassDescription P → Prop where
  | plain {description : ClassDescription P} (member : description ∈ catalogue.plain) :
      Settled catalogue description
  | subnet {subnet : ClassDescription P} {template : Template} {vars : List Declaration}
      {known : String → Option (ClassDescription P)} (member : subnet ∈ catalogue.subnets)
      (isSubnet : subnet.template? = some template)
      (labelled : ∀ label description, known label = some description →
        description.label = label)
      (settled : ∀ label description, known label = some description →
        Settled catalogue description)
      (resolved : List.Forall₂ (Declaration.Resolved known template) subnet.vars vars) :
      Settled catalogue { subnet with vars }

namespace Catalogue.WellFormed

variable {catalogue : Catalogue P}

theorem sections_apart (wellFormed : catalogue.WellFormed) {plain subnet : ClassDescription P}
    (isPlain : plain ∈ catalogue.plain) (isSubnet : subnet ∈ catalogue.subnets)
    (same : plain.label = subnet.label) : False := by
  have asPlain : (plain.label, ClassSection.plain) ∈ catalogue.taken :=
    List.mem_append_left _ (List.mem_map_of_mem isPlain)
  have asSubnet : (subnet.label, ClassSection.subnet) ∈ catalogue.taken :=
    List.mem_append_right _ (List.mem_map_of_mem isSubnet)
  rw [← wellFormed.section?_eq_some] at asPlain asSubnet
  rw [same, asSubnet] at asPlain
  cases asPlain

theorem taken_nodup (wellFormed : catalogue.WellFormed) :
    (catalogue.plain.map (·.label) ++ catalogue.subnets.map (·.label)).Nodup := by
  have nodup := (wellFormed.labels_perm.map (·.1)).nodup_iff.mp wellFormed.labels_nodup
  simpa [taken, List.map_append, List.map_map, Function.comp_def] using nodup

theorem plain_unique (wellFormed : catalogue.WellFormed) {left right : ClassDescription P}
    (leftPlain : left ∈ catalogue.plain) (rightPlain : right ∈ catalogue.plain)
    (same : left.label = right.label) : left = right :=
  List.inj_on_of_nodup_map (List.nodup_append.mp wellFormed.taken_nodup).1 leftPlain rightPlain
    same

theorem subnet_unique (wellFormed : catalogue.WellFormed) {left right : ClassDescription P}
    (leftSubnet : left ∈ catalogue.subnets) (rightSubnet : right ∈ catalogue.subnets)
    (same : left.label = right.label) : left = right :=
  List.inj_on_of_nodup_map (List.nodup_append.mp wellFormed.taken_nodup).2.1 leftSubnet
    rightSubnet same

theorem template?_of_mem_subnets (wellFormed : catalogue.WellFormed)
    {subnet : ClassDescription P} (member : subnet ∈ catalogue.subnets) :
    ∃ template, subnet.template? = some template := by
  obtain ⟨template, kind⟩ := wellFormed.subnetBacked subnet member
  exact ⟨template, by rw [ClassDescription.template?, kind]⟩

end Catalogue.WellFormed

/-- A label has at most one settled description. -/
theorem Settled.unique {catalogue : Catalogue P} (wellFormed : catalogue.WellFormed)
    {left right : ClassDescription P} (leftSettled : Settled catalogue left)
    (rightSettled : Settled catalogue right) (same : left.label = right.label) : left = right := by
  induction leftSettled generalizing right with
  | plain member =>
      cases rightSettled with
      | plain other => exact wellFormed.plain_unique member other same
      | subnet other _ _ _ _ => exact (wellFormed.sections_apart member other same).elim
  | subnet member isSubnet labelled settled resolved inductionHypothesis =>
      cases rightSettled with
      | plain other => exact (wellFormed.sections_apart other member same.symm).elim
      | subnet other isSubnet' labelled' settled' resolved' =>
          obtain rfl := wellFormed.subnet_unique member other same
          obtain rfl := Option.some.inj (isSubnet.symm.trans isSubnet')
          have agree : ∀ label left right, _ = some left → _ = some right → left = right :=
            fun label left right here there => inductionHypothesis label left here
              (settled' label right there)
              ((labelled label left here).trans (labelled' label right there).symm)
          rw [forall₂_resolved_unique resolved resolved' agree]

/-! ## Between rounds -/

/-- What holds of the classes that are there and the subnets that wait. -/
structure Stage (catalogue : Catalogue P) (set : ClassSet P)
    (pending : List (ClassDescription P)) : Prop where
  sound : ∀ label description, set.get? label = some description → Settled catalogue description
  plain : ∀ description ∈ catalogue.plain, set.get? description.label = some description
  listed : ∀ subnet ∈ pending, subnet ∈ catalogue.subnets
  covered : ∀ subnet ∈ catalogue.subnets,
    subnet ∈ pending ∨ ∃ description, set.get? subnet.label = some description
  fresh : ∀ subnet ∈ pending, set.get? subnet.label = none
  distinct : (pending.map (·.label)).Nodup

namespace Stage

variable {catalogue : Catalogue P} {set : ClassSet P} {pending : List (ClassDescription P)}

theorem congr (stage : Stage catalogue set pending) {others : List (ClassDescription P)}
    (rearranged : pending.Perm others) : Stage catalogue set others where
  sound := stage.sound
  plain := stage.plain
  listed subnet member := stage.listed subnet (rearranged.mem_iff.mpr member)
  covered subnet member := (stage.covered subnet member).imp_left rearranged.mem_iff.mp
  fresh subnet member := stage.fresh subnet (rearranged.mem_iff.mpr member)
  distinct := (rearranged.map (·.label)).nodup_iff.mp stage.distinct

/-- A subnet that is resolved against a stage can be added, which gives another stage. -/
theorem insert {subnet resolved : ClassDescription P} {rest : List (ClassDescription P)}
    (stage : Stage catalogue set (subnet :: rest)) (wellFormed : catalogue.WellFormed)
    (result : catalogue.resolveSubnet set subnet = .ok (some resolved)) :
    ∃ larger, set.insert resolved = .ok larger ∧ Stage catalogue larger rest := by
  have member := stage.listed subnet List.mem_cons_self
  obtain ⟨template, isSubnet⟩ := wellFormed.template?_of_mem_subnets member
  obtain ⟨vars, each, rfl⟩ := (Catalogue.resolveSubnet_eq_some isSubnet).mp result
  have free := stage.fresh subnet List.mem_cons_self
  have inserted : set.insert { subnet with vars } = .ok _ :=
    ClassSet.insert_eq_ok.mpr ⟨free, rfl⟩
  refine ⟨_, inserted, ?_, ?_, ?_, ?_, ?_, ?_⟩
  · intro label description found
    rw [ClassSet.get?_insert inserted] at found
    split at found
    · cases found
      exact .subnet member isSubnet (fun _ _ => ClassSet.label_of_get?) stage.sound each
    · exact stage.sound label description found
  · intro description isPlain
    rw [ClassSet.get?_insert inserted, if_neg, stage.plain description isPlain]
    exact fun same => wellFormed.sections_apart isPlain member same.symm
  · exact fun other isPending => stage.listed other (List.mem_cons_of_mem _ isPending)
  · intro other isSubnet
    rw [ClassSet.get?_insert inserted]
    by_cases same : subnet.label = other.label
    · exact .inr ⟨_, if_pos same⟩
    · rw [if_neg same]
      rcases stage.covered other isSubnet with isPending | known
      · rcases List.mem_cons.mp isPending with rfl | inRest
        · exact absurd rfl same
        · exact .inl inRest
      · exact .inr known
  · intro other isPending
    have distinct := stage.distinct
    rw [List.map_cons, List.nodup_cons] at distinct
    rw [ClassSet.get?_insert inserted, if_neg]
    · exact stage.fresh other (List.mem_cons_of_mem _ isPending)
    · intro same
      exact distinct.1 (same ▸ List.mem_map_of_mem isPending)
  · have distinct := stage.distinct
    rw [List.map_cons, List.nodup_cons] at distinct
    exact distinct.2

/-- A round leads from one stage to another, and leaves no more subnets to wait. -/
theorem resolveRound (wellFormed : catalogue.WellFormed)
    {skipped waiting : List (ClassDescription P)} {larger : ClassSet P}
    (stage : Stage catalogue set (pending ++ skipped))
    (round : catalogue.resolveRound set pending = .ok (larger, waiting)) :
    Stage catalogue larger (waiting ++ skipped) := by
  induction pending generalizing set skipped waiting with
  | nil =>
      cases round
      exact stage
  | cons subnet rest inductionHypothesis =>
      rw [Catalogue.resolveRound] at round
      cases result : catalogue.resolveSubnet set subnet with
      | error fault =>
          rw [result] at round
          cases round
      | ok resolved? =>
          rw [result] at round
          cases resolved? with
          | none =>
              obtain ⟨⟨next, others⟩, restRound, same⟩ := map_eq_ok.mp round
              cases same
              have behind : Stage catalogue set (rest ++ (subnet :: skipped)) :=
                stage.congr List.perm_middle.symm
              exact (inductionHypothesis behind restRound).congr List.perm_middle
          | some resolved =>
              obtain ⟨next, inserted, nextStage⟩ := stage.insert wellFormed result
              simp only [inserted] at round
              exact inductionHypothesis nextStage round

theorem resolveAll (wellFormed : catalogue.WellFormed) (stage : Stage catalogue set pending)
    {final : ClassSet P} (completed : catalogue.resolveAll set pending = .ok final) :
    Stage catalogue final [] := by
  induction set, pending using Catalogue.resolveAll.induct catalogue with
  | case1 set =>
      rw [Catalogue.resolveAll] at completed
      cases completed
      exact stage
  | case2 set first rest fault round =>
      rw [Catalogue.resolveAll, round] at completed
      cases completed
  | case3 set first rest larger waiting round fewer inductionHypothesis =>
      rw [Catalogue.resolveAll, round] at completed
      simp only [if_pos fewer] at completed
      have before : Stage catalogue set ((first :: rest) ++ []) := by rwa [List.append_nil]
      have after := before.resolveRound wellFormed round
      rw [List.append_nil] at after
      exact inductionHypothesis after completed
  | case4 set first rest larger waiting round stuck =>
      rw [Catalogue.resolveAll, round] at completed
      simp only [if_neg stuck] at completed
      cases completed

/-! ## Progress -/

/-- A variable that can be resolved against settled descriptions is never faulty; at most
it has to wait. -/
theorem innerVariable_total (wellFormed : catalogue.WellFormed)
    (stage : Stage catalogue set pending) {known : String → Option (ClassDescription P)}
    (labelled : ∀ label description, known label = some description → description.label = label)
    (settled : ∀ label description, known label = some description →
      Settled catalogue description)
    {className : String} {template : Template} {declaration resolved : Declaration}
    (resolvable : Declaration.Resolved known template declaration resolved) :
    ∃ found?, catalogue.innerVariable set className template declaration = .ok found? := by
  obtain ⟨target, spec, inner, found, isTarget, isSpec, isInner, isFound, -⟩ := resolvable
  have innerLabel := labelled spec.className inner isInner
  have innerSettled := settled spec.className inner isInner
  simp only [Catalogue.innerVariable, isTarget, isSpec]
  cases there : set.get? spec.className with
  | some other =>
      have sameLabel := (ClassSet.label_of_get? there).trans innerLabel.symm
      obtain rfl := (stage.sound _ _ there).unique wellFormed innerSettled sameLabel
      simp only [isFound]
      exact ⟨some found, rfl⟩
  | none =>
      have waits : catalogue.section? spec.className = some .subnet := by
        rw [← innerLabel] at there ⊢
        rw [wellFormed.section?_eq_some]
        cases innerSettled with
        | plain member =>
            rw [stage.plain _ member] at there
            cases there
        | subnet member _ _ _ _ =>
            exact List.mem_append_right _ (List.mem_map.mpr ⟨_, member, rfl⟩)
      exact ⟨none, by rw [if_pos waits]⟩

theorem resolveVariables_total (wellFormed : catalogue.WellFormed)
    (stage : Stage catalogue set pending) {known : String → Option (ClassDescription P)}
    (labelled : ∀ label description, known label = some description → description.label = label)
    (settled : ∀ label description, known label = some description →
      Settled catalogue description)
    (className : String) {template : Template} {vars resolved : List Declaration}
    (resolvable : List.Forall₂ (Declaration.Resolved known template) vars resolved) :
    ∃ vars?, catalogue.resolveVariables set className template vars = .ok vars? := by
  induction resolvable with
  | nil => exact ⟨some [], rfl⟩
  | cons first _ inductionHypothesis =>
      obtain ⟨found?, result⟩ := stage.innerVariable_total wellFormed labelled settled first
      obtain ⟨others?, restResult⟩ := inductionHypothesis
      rw [Catalogue.resolveVariables, result]
      cases found? with
      | none => exact ⟨none, rfl⟩
      | some found => exact ⟨_, by rw [restResult]; rfl⟩

/-- A subnet with a settled description is never faulty; at most it has to wait. -/
theorem resolveSubnet_total (wellFormed : catalogue.WellFormed)
    (stage : Stage catalogue set pending) {subnet description : ClassDescription P}
    (member : subnet ∈ catalogue.subnets) (settled : Settled catalogue description)
    (same : description.label = subnet.label) :
    ∃ resolved?, catalogue.resolveSubnet set subnet = .ok resolved? := by
  cases settled with
  | plain isPlain => exact (wellFormed.sections_apart isPlain member same).elim
  | @subnet other template vars known isOther isSubnet labelled innerSettled resolved =>
      obtain rfl := wellFormed.subnet_unique isOther member same
      obtain ⟨vars?, result⟩ :=
        stage.resolveVariables_total wellFormed labelled innerSettled other.label resolved
      simp only [Catalogue.resolveSubnet, isSubnet, result]
      exact ⟨_, rfl⟩

theorem resolveRound_total (wellFormed : catalogue.WellFormed)
    (settleable : ∀ subnet ∈ catalogue.subnets, ∃ description,
      Settled catalogue description ∧ description.label = subnet.label)
    {skipped : List (ClassDescription P)} (stage : Stage catalogue set (pending ++ skipped)) :
    ∃ result, catalogue.resolveRound set pending = .ok result := by
  induction pending generalizing set skipped with
  | nil => exact ⟨_, rfl⟩
  | cons subnet rest inductionHypothesis =>
      have member := stage.listed subnet List.mem_cons_self
      obtain ⟨description, settled, same⟩ := settleable subnet member
      obtain ⟨resolved?, result⟩ := stage.resolveSubnet_total wellFormed member settled same
      rw [Catalogue.resolveRound, result]
      cases resolved? with
      | none =>
          have behind : Stage catalogue set (rest ++ (subnet :: skipped)) :=
            stage.congr List.perm_middle.symm
          obtain ⟨next, restRound⟩ := inductionHypothesis behind
          exact ⟨_, by rw [restRound]; rfl⟩
      | some resolved =>
          obtain ⟨larger, inserted, nextStage⟩ := stage.insert wellFormed result
          simp only [inserted]
          exact inductionHypothesis nextStage

/-- Once no subnet can be resolved, everything that is settled is there. -/
theorem get?_of_stuck (wellFormed : catalogue.WellFormed) (stage : Stage catalogue set pending)
    (stuck : ∀ subnet ∈ pending, catalogue.resolveSubnet set subnet = .ok none)
    {description : ClassDescription P} (settled : Settled catalogue description) :
    set.get? description.label = some description := by
  induction settled with
  | plain member => exact stage.plain _ member
  | @subnet subnet template vars known member isSubnet labelled settled resolved
      inductionHypothesis =>
      have included : ∀ label description, known label = some description →
          set.get? label = some description := fun label description here =>
        labelled label description here ▸ inductionHypothesis label description here
      have resolvedHere := resolved.imp fun _ _ each => each.mono included
      have result : catalogue.resolveSubnet set subnet = .ok (some _) :=
        (Catalogue.resolveSubnet_eq_some isSubnet).mpr ⟨vars, resolvedHere, rfl⟩
      rcases stage.covered subnet member with isPending | ⟨other, found⟩
      · rw [stuck subnet isPending] at result
        cases result
      · have asSettled := Settled.subnet member isSubnet labelled settled resolved
        rw [← (stage.sound _ _ found).unique wellFormed asSettled (ClassSet.label_of_get? found)]
        exact ClassSet.label_of_get? found ▸ found

end Stage

theorem Catalogue.length_waiting {catalogue : Catalogue P} {set larger : ClassSet P}
    {pending waiting : List (ClassDescription P)}
    (round : catalogue.resolveRound set pending = .ok (larger, waiting)) :
    waiting.length ≤ pending.length ∧ (pending.length ≤ waiting.length →
      ∀ subnet ∈ pending, catalogue.resolveSubnet set subnet = .ok none) := by
  induction pending generalizing set waiting with
  | nil =>
      cases round
      exact ⟨Nat.le_refl _, fun _ _ member => absurd member List.not_mem_nil⟩
  | cons subnet rest inductionHypothesis =>
      rw [Catalogue.resolveRound] at round
      cases result : catalogue.resolveSubnet set subnet with
      | error fault =>
          rw [result] at round
          cases round
      | ok resolved? =>
          rw [result] at round
          cases resolved? with
          | none =>
              obtain ⟨⟨next, others⟩, restRound, same⟩ := map_eq_ok.mp round
              cases same
              obtain ⟨fewer, stuck⟩ := inductionHypothesis restRound
              refine ⟨Nat.succ_le_succ fewer, fun all => ?_⟩
              exact List.forall_mem_cons.mpr ⟨result, stuck (Nat.le_of_succ_le_succ all)⟩
          | some resolved =>
              simp only at round
              cases inserted : set.insert resolved with
              | error fault =>
                  rw [inserted] at round
                  cases round
              | ok next =>
                  rw [inserted] at round
                  obtain ⟨fewer, -⟩ := inductionHypothesis round
                  refine ⟨Nat.le_succ_of_le fewer, fun all => ?_⟩
                  rw [List.length_cons] at all
                  omega

theorem Stage.exists_resolveAll {catalogue : Catalogue P} {set : ClassSet P}
    {pending : List (ClassDescription P)} (stage : Stage catalogue set pending)
    (wellFormed : catalogue.WellFormed)
    (settleable : ∀ subnet ∈ catalogue.subnets, ∃ description,
      Settled catalogue description ∧ description.label = subnet.label) :
    ∃ final, catalogue.resolveAll set pending = .ok final := by
  induction set, pending using Catalogue.resolveAll.induct catalogue with
  | case1 set => exact ⟨set, by rw [Catalogue.resolveAll]⟩
  | case2 set first rest fault round =>
      have before : Stage catalogue set ((first :: rest) ++ []) := by rwa [List.append_nil]
      obtain ⟨result, completed⟩ := before.resolveRound_total wellFormed settleable
      rw [round] at completed
      cases completed
  | case3 set first rest larger waiting round fewer inductionHypothesis =>
      rw [Catalogue.resolveAll, round]
      simp only [if_pos fewer]
      have before : Stage catalogue set ((first :: rest) ++ []) := by rwa [List.append_nil]
      have after := before.resolveRound wellFormed round
      rw [List.append_nil] at after
      exact inductionHypothesis after
  | case4 set first rest larger waiting round notFewer =>
      have stuck := (Catalogue.length_waiting round).2 (Nat.le_of_not_lt notFewer)
      obtain ⟨description, settled, same⟩ :=
        settleable first (stage.listed first List.mem_cons_self)
      have there := stage.get?_of_stuck wellFormed stuck settled
      rw [same, stage.fresh first List.mem_cons_self] at there
      cases there

/-! ## From plain classes to a finished set -/

namespace Catalogue

variable {catalogue : Catalogue P} {set : ClassSet P}

theorem foldlM_insert {classes added : List (ClassDescription P)}
    (distinct : ((classes ++ added).map (·.label)).Nodup) :
    added.foldlM (fun (set : ClassSet P) description => set.insert description) ⟨classes⟩ =
      .ok ⟨classes ++ added⟩ := by
  induction added generalizing classes with
  | nil =>
      rw [List.append_nil]
      rfl
  | cons description rest inductionHypothesis =>
      have free : (⟨classes⟩ : ClassSet P).get? description.label = none := by
        rw [ClassSet.get?, List.find?_eq_none]
        intro other member same
        rw [List.map_append, List.nodup_append] at distinct
        have sameLabel : other.label = description.label := by simpa using same
        exact distinct.2.2 _ (List.mem_map_of_mem member) _ List.mem_cons_self sameLabel
      rw [List.append_cons] at distinct ⊢
      rw [List.foldlM_cons, ClassSet.insert_eq_ok.mpr ⟨free, rfl⟩]
      exact inductionHypothesis distinct

theorem WellFormed.plainSet_eq (wellFormed : catalogue.WellFormed) :
    catalogue.plainSet = .ok ⟨catalogue.plain⟩ := by
  have distinct := (List.nodup_append.mp wellFormed.taken_nodup).1
  exact @foldlM_insert P [] catalogue.plain distinct

theorem WellFormed.stage (wellFormed : catalogue.WellFormed) :
    Stage catalogue ⟨catalogue.plain⟩ catalogue.subnets := by
  have distinct := List.nodup_append.mp wellFormed.taken_nodup
  have found : ∀ description ∈ catalogue.plain,
      (⟨catalogue.plain⟩ : ClassSet P).get? description.label = some description := by
    intro description member
    cases there : (⟨catalogue.plain⟩ : ClassSet P).get? description.label with
    | none =>
        have absent := List.find?_eq_none.mp there description member
        simp at absent
    | some other =>
        rw [wellFormed.plain_unique (List.mem_of_find?_eq_some there) member
          (ClassSet.label_of_get? there)]
  refine ⟨?_, found, fun _ member => member, fun _ member => .inl member, ?_, distinct.2.1⟩
  · intro label description there
    exact .plain (List.mem_of_find?_eq_some there)
  · intro subnet member
    rw [ClassSet.get?, List.find?_eq_none]
    intro other isPlain same
    exact wellFormed.sections_apart isPlain member (by simpa using same)

/-- Finishing resolves all subnets and then checks the nesting. -/
theorem WellFormed.finish_eq_ok (wellFormed : catalogue.WellFormed) :
    catalogue.finish = .ok set ↔
      catalogue.resolveAll ⟨catalogue.plain⟩ catalogue.subnets = .ok set ∧
        set.checkNesting = .ok () := by
  rw [finish, wellFormed.plainSet_eq]
  constructor
  · intro finished
    obtain ⟨_, ⟨⟩, finished⟩ := bind_eq_ok.mp finished
    obtain ⟨final, resolved, finished⟩ := bind_eq_ok.mp finished
    obtain ⟨⟨⟩, checked, finished⟩ := bind_eq_ok.mp finished
    cases finished
    exact ⟨resolved, checked⟩
  · rintro ⟨resolved, checked⟩
    exact bind_eq_ok.mpr ⟨_, rfl, bind_eq_ok.mpr ⟨set, resolved,
      bind_eq_ok.mpr ⟨(), checked, rfl⟩⟩⟩

/-- A resolved set holds exactly the settled descriptions. -/
theorem WellFormed.get?_resolved (wellFormed : catalogue.WellFormed)
    (resolved : catalogue.resolveAll ⟨catalogue.plain⟩ catalogue.subnets = .ok set)
    {label : String} {description : ClassDescription P} :
    set.get? label = some description ↔
      Settled catalogue description ∧ description.label = label := by
  have stage := wellFormed.stage.resolveAll wellFormed resolved
  constructor
  · intro found
    exact ⟨stage.sound label description found, ClassSet.label_of_get? found⟩
  · rintro ⟨settled, rfl⟩
    exact stage.get?_of_stuck wellFormed (fun _ member => absurd member List.not_mem_nil) settled

theorem resolveAll_of_resolveRound {pending : List (ClassDescription P)} {larger : ClassSet P}
    (round : catalogue.resolveRound set pending = .ok (larger, [])) :
    catalogue.resolveAll set pending = .ok larger := by
  cases pending with
  | nil =>
      cases round
      rw [resolveAll]
  | cons first rest =>
      rw [resolveAll, round]
      simp [resolveAll]

/-- The rounds succeed exactly if every subnet has a settled description. -/
theorem WellFormed.exists_resolveAll_iff (wellFormed : catalogue.WellFormed) :
    (∃ set, catalogue.resolveAll ⟨catalogue.plain⟩ catalogue.subnets = .ok set) ↔
      ∀ subnet ∈ catalogue.subnets, ∃ description,
        Settled catalogue description ∧ description.label = subnet.label := by
  constructor
  · rintro ⟨set, resolved⟩ subnet member
    have stage := wellFormed.stage.resolveAll wellFormed resolved
    rcases stage.covered subnet member with isPending | ⟨description, found⟩
    · exact absurd isPending List.not_mem_nil
    · exact ⟨description, (wellFormed.get?_resolved resolved).mp found⟩
  · exact wellFormed.stage.exists_resolveAll wellFormed

end Catalogue

end SignalNet
