import SignalNet.Proofs.Network.Addresses
import SignalNet.Proofs.Preset.BestEffort
import SignalNet.Proofs.Preset.Idempotence

/-!
Contract: what assignments do to single cells.

A write that is completed does to each cell what the variables ask for that its terminals name
there, in their order, and nothing about other cells matters. So two cells that were equal are
equal afterwards, where the terminals name the same variables in both: in one store or in two,
in one run or in two. A variable of a subnet leads to all procs with one label, so what is around
two such procs cannot tell their cells apart.

Owns: `varsAt`, the projection of a write to a cell (`Store.getElem?_write`), what it means
that two procs lead to two cells in the same way (`Proc.Mirrors`), that literals and presets
through such procs keep the two cells equal, and that subnets around two procs with one label are
such procs (`Proc.mirrors_of_within`).
-/

set_option autoImplicit false

namespace SignalNet

variable {P : Type}

/-! ## The terminals in one slot -/

/-- The variables of the cell in a slot that terminals lead to, in order. -/
def varsAt (slot : Nat) (terminals : List Terminal) : List Nat :=
  terminals.filterMap fun terminal => if terminal.slot = slot then some terminal.var else none

theorem varsAt_flatMap {α : Type} (slot : Nat) (items : List α) (f : α → List Terminal) :
    varsAt slot (items.flatMap f) = items.flatMap fun item => varsAt slot (f item) := by
  induction items with
  | nil => rfl
  | cons item rest inductionHypothesis =>
      rw [List.flatMap_cons, List.flatMap_cons, ← inductionHypothesis]
      exact List.filterMap_append

theorem varsAt_eq_nil {slot : Nat} {terminals : List Terminal}
    (absent : ∀ terminal ∈ terminals, terminal.slot ≠ slot) : varsAt slot terminals = [] := by
  rw [varsAt, List.filterMap_eq_nil_iff]
  intro terminal member
  rw [if_neg (absent terminal member)]

/-- Where each of several procs with cells of their own contributes only for its cells, one cell
gets the contribution of one proc. -/
theorem flatMap_procs_of_mem {α : Type} {procs : List (Proc P)} (nodup : (slotsOf procs).Nodup)
    {proc : Proc P} (member : proc ∈ procs) {slot : Nat} (inside : slot ∈ proc.slots)
    {f : Proc P → List α} (elsewhere : ∀ other ∈ procs, slot ∉ other.slots → f other = []) :
    procs.flatMap f = f proc := by
  obtain ⟨before, after, rfl⟩ := List.append_of_mem member
  rw [slotsOf_eq_flatMap, List.flatMap_append, List.flatMap_cons] at nodup
  obtain ⟨-, restNodup, disjoint⟩ := List.nodup_append.mp nodup
  have early (other : Proc P) (isEarly : other ∈ before) : f other = [] := by
    refine elsewhere other (List.mem_append_left _ isEarly) fun inOther => ?_
    exact disjoint slot (List.mem_flatMap_of_mem isEarly inOther) slot
      (List.mem_append_left _ inside) rfl
  have late (other : Proc P) (isLate : other ∈ after) : f other = [] := by
    have listed := List.mem_append_right before (List.mem_cons_of_mem proc isLate)
    refine elsewhere other listed fun inOther => ?_
    exact (List.nodup_append.mp restNodup).2.2 slot inside slot
      (List.mem_flatMap_of_mem isLate inOther) rfl
  rw [List.flatMap_append, List.flatMap_cons, List.flatMap_eq_nil_iff.mpr early,
    List.flatMap_eq_nil_iff.mpr late, List.nil_append, List.append_nil]

/-- Through one of several procs with cells of their own, as if the others were not there. -/
theorem varsAt_flatMap_procs {procs : List (Proc P)} (nodup : (slotsOf procs).Nodup)
    {proc : Proc P} (member : proc ∈ procs) {slot : Nat} (inside : slot ∈ proc.slots)
    {f : Proc P → List Terminal}
    (within : ∀ other ∈ procs, ∀ terminal ∈ f other, terminal.slot ∈ other.slots) :
    varsAt slot (procs.flatMap f) = varsAt slot (f proc) := by
  rw [varsAt_flatMap]
  refine flatMap_procs_of_mem nodup member inside fun other isOther outside => ?_
  exact varsAt_eq_nil fun terminal leads same =>
    outside (same ▸ within other isOther terminal leads)

/-! ## The projection of a write -/

variable [Processor P]

/-- A cell after an assignment to one of its variables, if it takes the value. -/
def Cell.push (notify : Bool) (ch : Nat) (value : Value) (cell : Cell P) (var : Nat) : Cell P :=
  match cell.write notify var ch value with
  | .ok (some changed) => changed
  | _ => cell

namespace Store

/-- A completed write does to each cell what the terminals in its slot ask for. -/
theorem getElem?_write {notify : Bool} {ch : Nat} {value : Value} {terminals : List Terminal}
    {store after : Store P} {wrote : Bool}
    (completed : write notify ch value terminals store = (after, .ok wrote)) (slot : Nat) :
    after[slot]? = (store[slot]?).map fun cell =>
      (varsAt slot terminals).foldl (Cell.push notify ch value) cell := by
  fun_induction write notify ch value terminals store generalizing after wrote with
  | case1 store =>
      cases completed
      exact Option.map_id'.symm
  | case2 head rest store absent inductionHypothesis =>
      rw [inductionHypothesis completed, varsAt, varsAt, List.filterMap_cons]
      by_cases here : head.slot = slot
      · rw [← here, absent, Option.map_none, Option.map_none]
      · rw [if_neg here]
  | case3 head rest store cell found fault refused => cases completed
  | case4 head rest store cell found noChannel inductionHypothesis =>
      rw [inductionHypothesis completed, varsAt, varsAt, List.filterMap_cons]
      by_cases here : head.slot = slot
      · have unchanged : Cell.push notify ch value cell head.var = cell := by
          rw [Cell.push, noChannel]
        rw [if_pos here, ← here, found, Option.map_some, Option.map_some, List.foldl_cons,
          unchanged]
      · rw [if_neg here]
  | case5 head rest store cell found changed stored written outcome result inductionHypothesis =>
      cases outcome with
      | error fault => cases completed
      | ok wroteRest =>
          cases completed
          rw [inductionHypothesis result, varsAt, varsAt, List.filterMap_cons]
          by_cases here : head.slot = slot
          · have isChanged : Cell.push notify ch value cell head.var = changed := by
              rw [Cell.push, stored]
            rw [if_pos here, ← here, found,
              List.getElem?_set_self (List.getElem?_eq_some_iff.mp found).1, Option.map_some,
              Option.map_some, List.foldl_cons, isChanged]
          · rw [if_neg here, List.getElem?_set_ne here]

variable {left right leftAfter rightAfter : Store P} {a b : Nat}

/-- Two writes of one value keep two cells equal, if they name the same variables there. -/
theorem getElem?_writes {notify : Bool} {ch : Nat} {value : Value}
    {terminals others : List Terminal} {wrote wroteOther : Bool}
    (leftDone : left.write notify ch value terminals = (leftAfter, .ok wrote))
    (rightDone : right.write notify ch value others = (rightAfter, .ok wroteOther))
    (sameVars : varsAt a terminals = varsAt b others) (same : left[a]? = right[b]?) :
    leftAfter[a]? = rightAfter[b]? := by
  rw [getElem?_write leftDone, getElem?_write rightDone, sameVars, same]

end Store

/-! ## Procs that lead to cells in the same way -/

section

omit [Processor P]

/-- A proc leads to one cell as another proc leads to another one: they are of one class, and
each of their variables names the same variables of the two cells. -/
structure Proc.Mirrors (proc other : Proc P) (a b : Nat) : Prop where
  description_eq : proc.description = other.description
  varsAt_eq : ∀ var, varsAt a (proc.terminals var) = varsAt b (other.terminals var)

variable {proc other : Proc P} {a b : Nat}

theorem Proc.Mirrors.type_eq (mirrors : proc.Mirrors other a b) (var : Nat) :
    ((proc.declaration? var).map (·.type)).getD .double =
      ((other.declaration? var).map (·.type)).getD .double := by
  rw [Proc.declaration?, Proc.declaration?, mirrors.description_eq]

theorem Proc.Mirrors.variableIndex?_eq (mirrors : proc.Mirrors other a b) (label : String) :
    proc.variableIndex? label = other.variableIndex? label := by
  rw [Proc.variableIndex?, Proc.variableIndex?, mirrors.description_eq]

/-- The variables of two procs have as many channels in one store as in another, and two cells
are equal. -/
structure Store.Mirrored (left right : Store P) (proc other : Proc P) (a b : Nat) : Prop where
  counts : ∀ var, left.channelCount (proc.terminals var) = right.channelCount (other.terminals var)
  same : left[a]? = right[b]?

end

variable {proc other : Proc P} {a b : Nat} {left right leftAfter rightAfter : Store P}

theorem Store.Mirrored.of_written {reached alsoReached : Terminal → Prop}
    (mirrored : left.Mirrored right proc other a b)
    (leftWritten : Store.Written reached left leftAfter)
    (rightWritten : Store.Written alsoReached right rightAfter)
    (same : leftAfter[a]? = rightAfter[b]?) : leftAfter.Mirrored rightAfter proc other a b := by
  refine ⟨fun var => ?_, same⟩
  rw [Store.channelCount_congr leftWritten.shape_eq, Store.channelCount_congr rightWritten.shape_eq]
  exact mirrored.counts var

/-! ## Literals of subnets -/

namespace Build

theorem getElem?_writeLiterals (mirrors : proc.Mirrors other a b) {var : Nat} {literal : Literal}
    {channels : List Nat}
    (leftDone : writeLiteral proc var literal channels left = .ok leftAfter)
    (rightDone : writeLiteral other var literal channels right = .ok rightAfter)
    (same : left[a]? = right[b]?) : leftAfter[a]? = rightAfter[b]? := by
  induction channels generalizing left right with
  | nil =>
      cases leftDone
      cases rightDone
      exact same
  | cons ch rest inductionHypothesis =>
      rw [writeLiteral] at leftDone rightDone
      cases given : literal.channel? ch with
      | none =>
          simp only [given] at leftDone rightDone
          exact inductionHypothesis leftDone rightDone same
      | some item =>
          simp only [given, mirrors.type_eq var] at leftDone rightDone
          cases converted : item.toValue
              (((other.declaration? var).map (·.type)).getD .double) with
          | error fault =>
              rw [converted] at leftDone
              cases leftDone
          | ok value =>
              rw [converted] at leftDone rightDone
              rcases leftWrite : left.write false ch value (proc.terminals var) with
                ⟨leftNext, fault | wrote⟩ <;> simp only [leftWrite] at leftDone
              · cases leftDone
              rcases rightWrite : right.write false ch value (other.terminals var) with
                ⟨rightNext, fault | alsoWrote⟩ <;> simp only [rightWrite] at rightDone
              · cases rightDone
              exact inductionHypothesis leftDone rightDone
                (Store.getElem?_writes leftWrite rightWrite (mirrors.varsAt_eq var) same)

theorem mirrored_writeVariable (mirrors : proc.Mirrors other a b)
    (mirrored : left.Mirrored right proc other a b) {var : Nat} {literal : Literal}
    (leftDone : writeVariable proc var literal left = .ok leftAfter)
    (rightDone : writeVariable other var literal right = .ok rightAfter) :
    leftAfter.Mirrored rightAfter proc other a b := by
  rw [writeVariable] at leftDone rightDone
  rw [← mirrored.counts var] at rightDone
  exact mirrored.of_written (written_writeLiteral leftDone) (written_writeLiteral rightDone)
    (getElem?_writeLiterals mirrors leftDone rightDone mirrored.same)

/-- The literals of a subnet keep two cells equal. -/
theorem mirrored_writeSubnet (mirrors : proc.Mirrors other a b)
    (mirrored : left.Mirrored right proc other a b) {spec : ProcSpec}
    (leftDone : writeSubnet spec proc left = .ok leftAfter)
    (rightDone : writeSubnet spec other right = .ok rightAfter) :
    leftAfter.Mirrored rightAfter proc other a b := by
  rw [writeSubnet] at leftDone rightDone
  obtain ⟨leftMiddle, leftInitials, leftArguments⟩ := bind_eq_ok.mp leftDone
  obtain ⟨rightMiddle, rightInitials, rightArguments⟩ := bind_eq_ok.mp rightDone
  rw [← mirrors.description_eq] at rightInitials
  have middle : leftMiddle.Mirrored rightMiddle proc other a b :=
    foldlM_keeps_both (motive := fun left right => left.Mirrored right proc other a b) mirrored
      (fun item _ _ _ _ _ before => mirrored_writeVariable mirrors before) leftInitials
      rightInitials
  refine foldlM_keeps_both (motive := fun left right => left.Mirrored right proc other a b) middle
    (fun item _ before alsoBefore after alsoAfter holds leftStep
    rightStep => ?_) leftArguments rightArguments
  dsimp only at leftStep rightStep
  rw [← mirrors.variableIndex?_eq] at rightStep
  cases found : proc.variableIndex? item.1 with
  | none =>
      rw [found] at leftStep
      cases leftStep
  | some var =>
      rw [found] at leftStep rightStep
      exact mirrored_writeVariable mirrors holds leftStep rightStep

end Build

/-! ## Presets of classes -/

namespace Blend

variable {body : Option Assignments × Float}

theorem getElem?_applyChannel (mirrors : proc.Mirrors other a b) {type : ValueType}
    {label : String} {var ch : Nat}
    (leftDone : applyChannel type label (proc.terminals var) [body] left ch = (leftAfter, none))
    (rightDone : applyChannel type label (other.terminals var) [body] right ch =
      (rightAfter, none))
    (same : left[a]? = right[b]?) : leftAfter[a]? = rightAfter[b]? := by
  rw [applyChannel] at leftDone rightDone
  rw [blend_single type label ch _ (Value.zero type)] at leftDone rightDone
  cases blended : blend type label ch (Value.zero type) [body] with
  | error fault =>
      rw [blended] at leftDone
      cases leftDone
  | ok value? =>
      rw [blended] at leftDone rightDone
      cases value? with
      | none =>
          cases leftDone
          cases rightDone
          exact same
      | some value =>
          dsimp only at leftDone rightDone
          rcases leftWrite : left.write true ch value (proc.terminals var) with
            ⟨leftNext, fault | wrote⟩ <;> simp only [leftWrite] at leftDone <;> cases leftDone
          rcases rightWrite : right.write true ch value (other.terminals var) with
            ⟨rightNext, fault | alsoWrote⟩ <;> simp only [rightWrite] at rightDone <;>
            cases rightDone
          exact Store.getElem?_writes leftWrite rightWrite (mirrors.varsAt_eq var) same

/-- Blends of one body do not look at live values, so they assign the same in both runs. -/
theorem mirrored_applyChannels (mirrors : proc.Mirrors other a b) {type : ValueType}
    {label : String} {var : Nat} {channels : List Nat}
    (mirrored : left.Mirrored right proc other a b)
    (leftDone : applyChannels type label (proc.terminals var) [body] channels left =
      (leftAfter, []))
    (rightDone : applyChannels type label (other.terminals var) [body] channels right =
      (rightAfter, [])) : leftAfter.Mirrored rightAfter proc other a b := by
  induction channels generalizing left right with
  | nil =>
      cases leftDone
      cases rightDone
      exact mirrored
  | cons ch rest inductionHypothesis =>
      rw [applyChannels] at leftDone rightDone
      rcases leftFirst : applyChannel type label (proc.terminals var) [body] left ch with
        ⟨leftNext, leftFault⟩
      rcases rightFirst : applyChannel type label (other.terminals var) [body] right ch with
        ⟨rightNext, rightFault⟩
      simp only [leftFirst, rightFirst, Prod.mk.injEq, List.append_eq_nil_iff,
        Option.toList_eq_nil_iff] at leftDone rightDone
      obtain ⟨leftRest, rfl, leftSilent⟩ := leftDone
      obtain ⟨rightRest, rfl, rightSilent⟩ := rightDone
      have leftWritten := written_applyChannel type label (proc.terminals var) [body] left ch
      have rightWritten := written_applyChannel type label (other.terminals var) [body] right ch
      rw [leftFirst] at leftWritten
      rw [rightFirst] at rightWritten
      exact inductionHypothesis (mirrored.of_written leftWritten rightWritten
        (getElem?_applyChannel mirrors leftFirst rightFirst mirrored.same))
        (Prod.ext leftRest leftSilent) (Prod.ext rightRest rightSilent)

theorem mirrored_applyVariable (mirrors : proc.Mirrors other a b) {label : String}
    (mirrored : left.Mirrored right proc other a b)
    (leftDone : applyVariable proc [body] label left = (leftAfter, []))
    (rightDone : applyVariable other [body] label right = (rightAfter, [])) :
    leftAfter.Mirrored rightAfter proc other a b := by
  rw [applyVariable] at leftDone rightDone
  rw [← mirrors.variableIndex?_eq] at rightDone
  cases indexed : proc.variableIndex? label with
  | none =>
      rw [indexed] at leftDone
      cases leftDone
  | some var =>
      simp only [indexed, mirrors.type_eq var, ← mirrored.counts var] at leftDone rightDone
      split at leftDone
      · cases leftDone
      · rename_i noSignal
        rw [if_neg noSignal] at rightDone
        simp only [Prod.mk.injEq, List.append_eq_nil_iff, List.map_eq_nil_iff] at leftDone rightDone
        exact mirrored_applyChannels mirrors mirrored (Prod.ext leftDone.1 leftDone.2.2)
          (Prod.ext rightDone.1 rightDone.2.2)

theorem mirrored_applyVariables (mirrors : proc.Mirrors other a b) {labels : List String}
    (mirrored : left.Mirrored right proc other a b)
    (leftDone : applyVariables proc [body] labels left = (leftAfter, []))
    (rightDone : applyVariables other [body] labels right = (rightAfter, [])) :
    leftAfter.Mirrored rightAfter proc other a b := by
  induction labels generalizing left right with
  | nil =>
      cases leftDone
      cases rightDone
      exact mirrored
  | cons label rest inductionHypothesis =>
      rw [applyVariables] at leftDone rightDone
      simp only [Prod.mk.injEq, List.append_eq_nil_iff, List.map_eq_nil_iff] at leftDone rightDone
      exact inductionHypothesis
        (mirrored_applyVariable mirrors mirrored (Prod.ext rfl leftDone.2.1)
          (Prod.ext rfl rightDone.2.1))
        (Prod.ext leftDone.1 leftDone.2.2) (Prod.ext rightDone.1 rightDone.2.2)

end Blend

/-- A preset of the class keeps two cells equal, where it is applied without a failure. -/
theorem Build.mirrored_applyClassPreset (mirrors : proc.Mirrors other a b) {label : String}
    (mirrored : left.Mirrored right proc other a b)
    (leftDone : applyClassPreset proc label left = (leftAfter, .ok ()))
    (rightDone : applyClassPreset other label right = (rightAfter, .ok ())) :
    leftAfter.Mirrored rightAfter proc other a b := by
  rw [applyClassPreset] at leftDone rightDone
  rw [← mirrors.description_eq] at rightDone
  cases found : proc.description.preset? label with
  | none =>
      rw [found] at leftDone
      cases leftDone
  | some body =>
      rw [found] at leftDone rightDone
      simp only [Prod.mk.injEq, Blend.outcome_eq_ok] at leftDone rightDone
      exact Blend.mirrored_applyVariables mirrors mirrored (Prod.ext leftDone.1 leftDone.2)
        (Prod.ext rightDone.1 rightDone.2)

omit [Processor P]

/-! ## Variables of subnets -/

/-- What a target leads to in a proc: nothing, if the proc has another label. -/
def VarRef.terminalsIn (target : VarRef) (proc : Proc P) : List Terminal :=
  if proc.label = target.proc then (proc.variableIndex? target.var).toList.flatMap proc.terminals
  else []

theorem VarRef.slot_mem_of_terminalsIn {target : VarRef} {proc : Proc P} {terminal : Terminal}
    (leads : terminal ∈ target.terminalsIn proc) : terminal.slot ∈ proc.slots := by
  rw [terminalsIn] at leads
  split at leads
  · obtain ⟨var, -, isTerminal⟩ := List.mem_flatMap.mp leads
    exact Proc.slot_mem_of_terminal isTerminal
  · cases leads

/-- The variables of a subnet forward into what is in it, as building resolved them. -/
def Proc.Resolved : Proc P → Prop
  | .native _ _ => True
  | .subnet head procs _ _ targets =>
      ∃ spec, head.description.vars.mapM (Build.forwards spec procs) = .ok targets

/-- The addresses of a target lead to the procs with its label, in order. -/
theorem Build.flatMap_of_forwards {spec : ProcSpec} {procs : List (Proc P)}
    {declaration : Declaration} {found : List (Nat × Nat)}
    (forwarded : forwards spec procs declaration = .ok found) :
    ∃ target, declaration.target = some target ∧
      (found.flatMap fun address => terminalsAt procs address.1 address.2) =
        procs.flatMap target.terminalsIn := by
  rw [forwards] at forwarded
  cases isTarget : declaration.target with
  | none =>
      rw [isTarget] at forwarded
      cases forwarded
  | some target =>
      simp only [isTarget] at forwarded
      split at forwarded
      · cases forwarded
      · cases forwarded
        refine ⟨target, rfl, ?_⟩
        have positions : (procs.zipIdx.flatMap fun entry => target.terminalsIn entry.1) =
            procs.flatMap target.terminalsIn := by
          rw [← List.flatMap_map, List.zipIdx_map_fst]
        rw [← positions, List.filterMap_eq_flatMap_toList, List.flatMap_assoc]
        refine List.flatMap_congr fun entry member => ?_
        have there := List.mem_zipIdx_iff_getElem?.mp member
        rw [VarRef.terminalsIn]
        split
        · cases entry.1.variableIndex? target.var with
          | none => rfl
          | some var =>
              simp only [Option.map_some, Option.toList_some, List.flatMap_singleton]
              exact terminalsAt_of_getElem? there var
        · rfl

/-- A variable of a subnet leads to the procs with the label of its target, in order. -/
theorem Proc.terminals_subnet {head : ProcHead P} {procs : List (Proc P)} {order : List Nat}
    {presets : List NetworkPreset} {targets : List (List (Nat × Nat))}
    (resolved : (Proc.subnet head procs order presets targets).Resolved) (var : Nat) :
    (Proc.subnet head procs order presets targets).terminals var =
      procs.flatMap fun proc =>
        ((head.description.vars[var]?).bind (·.target)).toList.flatMap (·.terminalsIn proc) := by
  obtain ⟨spec, forwarded⟩ := resolved
  have each := mapM_eq_ok.mp forwarded
  rw [Proc.terminals]
  cases declared : head.description.vars[var]? with
  | none =>
      have beyond := List.getElem?_eq_none_iff.mp declared
      rw [List.getElem?_eq_none (each.length_eq ▸ beyond)]
      exact (List.flatMap_eq_nil_iff.mpr fun _ _ => rfl).symm
  | some declaration =>
      obtain ⟨found, isFound, resolved⟩ := exists_getElem?_of_forall₂ each declared
      obtain ⟨target, isTarget, leads⟩ := Build.flatMap_of_forwards resolved
      simp only [isFound, Option.getD_some, leads, Option.bind_some, isTarget, Option.toList_some,
        List.flatMap_singleton]

/-! ## Cells seen from around them -/

theorem VarRef.varsAt_terminalsIn (target : VarRef) {proc other : Proc P} {a b : Nat}
    (mirrors : proc.Mirrors other a b) (sameLabel : proc.label = other.label) :
    varsAt a (target.terminalsIn proc) = varsAt b (target.terminalsIn other) := by
  rw [terminalsIn, terminalsIn, sameLabel, mirrors.variableIndex?_eq]
  split
  · cases other.variableIndex? target.var with
    | none => rfl
    | some var =>
        simp only [Option.toList_some, List.flatMap_singleton]
        exact mirrors.varsAt_eq var
  · rfl

/-- A subnet leads to two cells in the same way, if procs with one label in it do. -/
theorem Proc.mirrors_around {proc other around : Proc P} {level : Level P} {a b : Nat}
    (resolved : around.Resolved) (isSubnet : around.inner? = some level)
    (nodup : level.slots.Nodup) (member : proc ∈ level.procs) (alsoMember : other ∈ level.procs)
    (sameLabel : proc.label = other.label) (inProc : a ∈ proc.slots) (inOther : b ∈ other.slots)
    (mirrors : proc.Mirrors other a b) : around.Mirrors around a b := by
  cases around with
  | native => cases isSubnet
  | subnet head procs order presets targets =>
      cases isSubnet
      refine ⟨rfl, fun var => ?_⟩
      have within : ∀ inner ∈ procs, ∀ terminal ∈
          ((head.description.vars[var]?).bind (·.target)).toList.flatMap (·.terminalsIn inner),
          terminal.slot ∈ inner.slots := by
        intro inner _ terminal leads
        obtain ⟨target, -, isTerminal⟩ := List.mem_flatMap.mp leads
        exact VarRef.slot_mem_of_terminalsIn isTerminal
      rw [Proc.terminals_subnet resolved, varsAt_flatMap_procs nodup member inProc within,
        varsAt_flatMap_procs nodup alsoMember inOther within, varsAt_flatMap, varsAt_flatMap]
      exact List.flatMap_congr fun target _ => target.varsAt_terminalsIn mirrors sameLabel

/-- Every subnet around two procs with one label leads to their cells in the same way. -/
theorem Proc.mirrors_of_within {around : Proc P} {level inside : Level P}
    (resolved : around.Resolved) (isSubnet : around.inner? = some level)
    (below : ∀ between, level.Within between → ∀ proc ∈ between.procs, proc.Resolved)
    (nodup : level.slots.Nodup) (within : level.Within inside) {proc other : Proc P}
    (member : proc ∈ inside.procs) (alsoMember : other ∈ inside.procs)
    (sameLabel : proc.label = other.label) {a b : Nat} (inProc : a ∈ proc.slots)
    (inOther : b ∈ other.slots) (mirrors : proc.Mirrors other a b) : around.Mirrors around a b := by
  induction within generalizing around with
  | self level =>
      exact mirrors_around resolved isSubnet nodup member alsoMember sameLabel inProc inOther
        mirrors
  | @inner level outer next inside isProc isInner deeper inductionHypothesis =>
      have nextNodup : next.slots.Nodup :=
        ((Level.Within.inner isProc isInner (.self next)).slots_sublist).nodup nodup
      have mirrorsOuter : outer.Mirrors outer a b :=
        inductionHypothesis (below level (.self level) outer isProc) isInner
          (fun between further => below between (.inner isProc isInner further)) nextNodup member
          alsoMember
      have inOuter {slot : Nat} {held : Proc P} (isHeld : held ∈ inside.procs)
          (here : slot ∈ held.slots) : slot ∈ outer.slots :=
        Proc.slot_mem_of_within isInner deeper isHeld here
      exact mirrors_around resolved isSubnet nodup isProc isProc rfl (inOuter member inProc)
        (inOuter alsoMember inOther) mirrorsOuter

end SignalNet
