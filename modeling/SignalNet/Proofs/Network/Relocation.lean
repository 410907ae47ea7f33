import SignalNet.Proofs.Network.Forwarding
import SignalNet.Proofs.Network.Projection
import SignalNet.Proofs.Network.Replicas
import Mathlib.Logic.Equiv.Basic

/-!
Contract: a level is built alike for every voice and behind any cells.

Building looks at cells through terminals only, so with other cells in front of its own it does
the same further behind. It compares the numbers of voices and asks whether there is one, but a
number itself decides nothing. So every stage commutes with moving the cells and renumbering the
voices, failures included, and the law for a whole level is an equation
(`relocates_buildNested`). A level without a number makes its own numbers, so there the voices
keep theirs.

Owns: `Proc.copy`, `Build.Fits`, and the equation of every stage.
-/

set_option autoImplicit false

namespace SignalNet

variable {P : Type}

/-! ## Copies -/

mutual

/-- A proc with its cells further behind and other numbers for its voices. -/
def Proc.copy (offset : Nat) (renumbering : Equiv.Perm Nat) : Proc P → Proc P
  | .native head slot =>
      .native { head with replica := head.replica.map renumbering } (offset + slot)
  | .subnet head procs order presets forwards =>
      .subnet { head with replica := head.replica.map renumbering }
        (copiesOf offset renumbering procs) order presets forwards

def copiesOf (offset : Nat) (renumbering : Equiv.Perm Nat) : List (Proc P) → List (Proc P)
  | [] => []
  | proc :: rest => proc.copy offset renumbering :: copiesOf offset renumbering rest

end

/-- A terminal of a cell that is further behind. -/
def Terminal.behind (offset : Nat) (terminal : Terminal) : Terminal :=
  ⟨offset + terminal.slot, terminal.var⟩

section

variable (offset : Nat) (renumbering : Equiv.Perm Nat)

theorem copiesOf_eq_map (procs : List (Proc P)) :
    copiesOf offset renumbering procs = procs.map (Proc.copy offset renumbering) := by
  induction procs with
  | nil => rfl
  | cons proc rest inductionHypothesis => rw [copiesOf, List.map_cons, inductionHypothesis]

theorem getElem?_copiesOf (procs : List (Proc P)) (position : Nat) :
    (copiesOf offset renumbering procs)[position]? =
      (procs[position]?).map (Proc.copy offset renumbering) := by
  rw [copiesOf_eq_map, List.getElem?_map]

def Level.copy (level : Level P) : Level P :=
  ⟨copiesOf offset renumbering level.procs, level.order, level.presets⟩

namespace Proc

variable (proc : Proc P)

@[simp] theorem head_copy : (proc.copy offset renumbering).head =
    { proc.head with replica := proc.head.replica.map renumbering } := by
  cases proc <;> rfl

@[simp] theorem label_copy : (proc.copy offset renumbering).label = proc.label := by
  rw [label, head_copy, label]

@[simp] theorem description_copy :
    (proc.copy offset renumbering).description = proc.description := by
  rw [description, head_copy, description]

@[simp] theorem variableIndex?_copy (label : String) :
    (proc.copy offset renumbering).variableIndex? label = proc.variableIndex? label := by
  rw [variableIndex?, description_copy, variableIndex?]

@[simp] theorem declaration?_copy (var : Nat) :
    (proc.copy offset renumbering).declaration? var = proc.declaration? var := by
  rw [declaration?, description_copy, declaration?]

@[simp] theorem variableLabel_copy (var : Nat) :
    (proc.copy offset renumbering).variableLabel var = proc.variableLabel var := by
  rw [variableLabel, declaration?_copy, variableLabel]

theorem copy_withInputs (inputs : List Connection) :
    (proc.copy offset renumbering).withInputs inputs =
      (proc.withInputs inputs).copy offset renumbering := by
  cases proc <;> rfl

theorem slots_copy : (proc.copy offset renumbering).slots = proc.slots.map (offset + ·) := by
  induction proc with
  | native head slot => rfl
  | subnet head procs order presets forwards inductionHypothesis =>
      rw [copy, slots, slots, copiesOf_eq_map, slotsOf_eq_flatMap, slotsOf_eq_flatMap,
        List.flatMap_map, List.map_flatMap]
      exact List.flatMap_congr inductionHypothesis

theorem terminals_copy (var : Nat) :
    (proc.copy offset renumbering).terminals var =
      (proc.terminals var).map (Terminal.behind offset) := by
  induction proc generalizing var with
  | native head slot =>
      rw [copy, terminals, terminals]
      rfl
  | subnet head procs order presets forwards inductionHypothesis =>
      rw [copy, terminals, terminals, List.map_flatMap]
      refine List.flatMap_congr fun target _ => ?_
      rw [terminalsAt_eq, terminalsAt_eq, getElem?_copiesOf]
      cases found : procs[target.1]? with
      | none => rfl
      | some inner => exact inductionHypothesis inner (List.mem_of_getElem? found) target.2

theorem varsAt_copy (var slot : Nat) :
    varsAt (offset + slot) ((proc.copy offset renumbering).terminals var) =
      varsAt slot (proc.terminals var) := by
  rw [terminals_copy, varsAt, List.filterMap_map, varsAt]
  refine List.filterMap_congr fun terminal _ => ?_
  simp only [Function.comp_apply, Terminal.behind, Nat.add_left_cancel_iff]

/-- Two copies of a proc lead to their cells in the same way. -/
theorem mirrors_copy (other : Nat) (otherNumbering : Equiv.Perm Nat) (slot : Nat) :
    (proc.copy offset renumbering).Mirrors (proc.copy other otherNumbering) (offset + slot)
      (other + slot) where
  description_eq := by rw [description_copy, description_copy]
  varsAt_eq var := by rw [varsAt_copy, varsAt_copy]

end Proc

end

/-! ## Stores with cells in front -/

namespace Store

variable (before store : Store P)

theorem getElem?_behind (slot : Nat) : (before ++ store)[before.length + slot]? = store[slot]? := by
  rw [List.getElem?_append_right (Nat.le_add_right _ _), Nat.add_sub_cancel_left]

theorem set_behind (slot : Nat) (cell : Cell P) :
    (before ++ store).set (before.length + slot) cell = before ++ store.set slot cell := by
  rw [List.set_append_right _ _ (Nat.le_add_right _ _), Nat.add_sub_cancel_left]

theorem channels_behind (terminals : List Terminal) :
    (before ++ store).channels (terminals.map (Terminal.behind before.length)) =
      store.channels terminals := by
  cases terminals with
  | nil => rfl
  | cons terminal rest =>
      simp only [List.map_cons, channels, bank?, Terminal.behind, getElem?_behind]

theorem channelCount_behind (terminals : List Terminal) :
    channelCount (before ++ store) (terminals.map (Terminal.behind before.length)) =
      store.channelCount terminals := by
  rw [channelCount, channels_behind, channelCount]

theorem value?_behind (terminals : List Terminal) (ch : Nat) :
    value? (before ++ store) (terminals.map (Terminal.behind before.length)) ch =
      store.value? terminals ch := by
  rw [value?, channels_behind, value?]

theorem write_behind [Processor P] (notify : Bool) (ch : Nat) (value : Value)
    (terminals : List Terminal) :
    write notify ch value (terminals.map (Terminal.behind before.length)) (before ++ store) =
      (write notify ch value terminals store).map (before ++ ·) id := by
  induction terminals generalizing store with
  | nil => rfl
  | cons terminal rest inductionHypothesis =>
      rw [List.map_cons, write, write, Terminal.behind, getElem?_behind]
      cases store[terminal.slot]? with
      | none => exact inductionHypothesis store
      | some cell =>
          dsimp only
          cases cell.write notify terminal.var ch value with
          | error fault => rfl
          | ok changed? =>
              cases changed? with
              | none => exact inductionHypothesis store
              | some changed =>
                  dsimp only
                  rw [set_behind, inductionHypothesis]
                  rfl

end Store

/-! ## Literals and presets -/

section

variable [Processor P] (before store : Store P) (renumbering : Equiv.Perm Nat) (proc : Proc P)

namespace Build

theorem writeLiteral_behind (var : Nat) (literal : Literal) (channels : List Nat) :
    writeLiteral (proc.copy before.length renumbering) var literal channels (before ++ store) =
      (writeLiteral proc var literal channels store).map (before ++ ·) := by
  induction channels generalizing store with
  | nil => rfl
  | cons ch rest inductionHypothesis =>
      rw [writeLiteral, writeLiteral]
      cases literal.channel? ch with
      | none => exact inductionHypothesis store
      | some item =>
          simp only [Proc.declaration?_copy, Proc.label_copy, Proc.variableLabel_copy]
          cases item.toValue (((proc.declaration? var).map (·.type)).getD .double) with
          | error fault => rfl
          | ok value =>
              dsimp only
              rw [Proc.terminals_copy, Store.write_behind]
              rcases store.write false ch value (proc.terminals var) with ⟨written, fault | wrote⟩
              · rfl
              · exact inductionHypothesis written

theorem writeVariable_behind (var : Nat) (literal : Literal) :
    writeVariable (proc.copy before.length renumbering) var literal (before ++ store) =
      (writeVariable proc var literal store).map (before ++ ·) := by
  rw [writeVariable, writeVariable, Proc.terminals_copy, Store.channelCount_behind,
    writeLiteral_behind]

theorem writeSubnet_behind (spec : ProcSpec) :
    writeSubnet spec (proc.copy before.length renumbering) (before ++ store) =
      (writeSubnet spec proc store).map (before ++ ·) := by
  rw [writeSubnet, writeSubnet, Proc.description_copy,
    foldlM_map fun state item => writeVariable_behind before state renumbering proc item.1 item.2]
  refine bind_map_eq fun initialized _ => foldlM_map fun state item => ?_
  dsimp only
  rw [Proc.variableIndex?_copy]
  cases proc.variableIndex? item.1 with
  | none => rfl
  | some var => exact writeVariable_behind before state renumbering proc var item.2

end Build

namespace Blend

variable (bodies : WeightedBodies)

theorem applyChannel_behind (type : ValueType) (label : String) (terminals : List Terminal)
    (ch : Nat) :
    applyChannel type label (terminals.map (Terminal.behind before.length)) bodies
        (before ++ store) ch =
      (applyChannel type label terminals bodies store ch).map (before ++ ·) id := by
  rw [applyChannel, applyChannel, Store.value?_behind]
  rcases blend type label ch ((store.value? terminals ch).getD (Value.zero type)) bodies with
    fault | value?
  · rfl
  · cases value? with
    | none => rfl
    | some value =>
        dsimp only
        rw [Store.write_behind]
        rcases store.write true ch value terminals with ⟨written, fault | wrote⟩ <;> rfl

theorem applyChannels_behind (type : ValueType) (label : String) (terminals : List Terminal)
    (channels : List Nat) :
    applyChannels type label (terminals.map (Terminal.behind before.length)) bodies channels
        (before ++ store) =
      (applyChannels type label terminals bodies channels store).map (before ++ ·) id := by
  induction channels generalizing store with
  | nil => rfl
  | cons ch rest inductionHypothesis =>
      rw [applyChannels, applyChannels, applyChannel_behind]
      dsimp only [Prod.map]
      rw [inductionHypothesis]
      rfl

theorem applyVariable_behind (label : String) :
    applyVariable (proc.copy before.length renumbering) bodies label (before ++ store) =
      (applyVariable proc bodies label store).map (before ++ ·) id := by
  rw [applyVariable, applyVariable, Proc.variableIndex?_copy]
  cases proc.variableIndex? label with
  | none => rfl
  | some var =>
      simp only [Proc.declaration?_copy, Proc.terminals_copy, Store.channelCount_behind,
        applyChannels_behind]
      split <;> rfl

theorem applyVariables_behind (labels : List String) :
    applyVariables (proc.copy before.length renumbering) bodies labels (before ++ store) =
      (applyVariables proc bodies labels store).map (before ++ ·) id := by
  induction labels generalizing store with
  | nil => rfl
  | cons label rest inductionHypothesis =>
      rw [applyVariables, applyVariables, applyVariable_behind]
      dsimp only [Prod.map]
      rw [inductionHypothesis, Proc.label_copy]
      rfl

end Blend

theorem Build.applyClassPreset_behind (label : String) :
    applyClassPreset (proc.copy before.length renumbering) label (before ++ store) =
      (applyClassPreset proc label store).map (before ++ ·) id := by
  rw [applyClassPreset, applyClassPreset, Proc.description_copy]
  cases proc.description.preset? label with
  | none => rfl
  | some body =>
      dsimp only [Blend.applyBodies]
      rw [Blend.applyVariables_behind]
      rfl

end

/-! ## Numbers of voices -/

namespace Build

/-- A renumbering that a level can be built with: the voices that it makes keep their numbers. -/
def Fits (renumbering : Equiv.Perm Nat) (around : Option Nat) : Prop :=
  around = none → renumbering = .refl Nat

variable {renumbering : Equiv.Perm Nat} {around : Option Nat}

theorem voices_copy (fits : Fits renumbering around) (description : ClassDescription P)
    (spec : ProcSpec) :
    voices description spec (around.map renumbering) =
      (voices description spec around).map (List.map (Option.map renumbering)) := by
  rw [voices, voices]
  cases spec.polyCount with
  | none => rfl
  | some count =>
      cases around with
      | none =>
          obtain rfl := fits rfl
          have kept : List.map (Option.map (Equiv.refl Nat)) = id := by
            rw [Equiv.coe_refl, Option.map_id, List.map_id_fun]
          dsimp only [Option.map_none, Option.isSome_none]
          rw [kept]
          split <;> rfl
      | some number =>
          dsimp only [Option.map_some, Option.isSome_some]
          split <;> rfl

/-- It fits all voices of a level that it fits. -/
theorem Fits.of_voices (fits : Fits renumbering around) {description : ClassDescription P}
    {spec : ProcSpec} {numbers : List (Option Nat)}
    (voiced : voices description spec around = .ok numbers) :
    ∀ number ∈ numbers, Fits renumbering number := by
  intro number isVoice missing
  cases around with
  | none => exact fits rfl
  | some outer =>
      rw [voices_of_voice voiced, List.mem_singleton] at isVoice
      cases missing.symm.trans isVoice

/-! ## Stages of a level -/

theorem forwards_copies (offset : Nat) (renumbering : Equiv.Perm Nat) (spec : ProcSpec)
    (procs : List (Proc P)) :
    forwards spec (copiesOf offset renumbering procs) = forwards spec procs := by
  funext declaration
  rw [forwards, forwards]
  cases declaration.target with
  | none => rfl
  | some target =>
      simp only [copiesOf_eq_map, List.zipIdx_map, List.filterMap_map, Function.comp_def, Prod.map,
        id, Proc.label_copy, Proc.variableIndex?_copy]

theorem findSource_copies (offset : Nat) (renumbering : Equiv.Perm Nat) (procs : List (Proc P))
    (label : String) (replica : Option Nat) :
    findSource (copiesOf offset renumbering procs) label (replica.map renumbering) =
      findSource procs label replica := by
  have sameNumber (other : Option Nat) :
      (other.map renumbering == replica.map renumbering) = (other == replica) := by
    rw [Bool.eq_iff_iff, beq_iff_eq, beq_iff_eq]
    exact (Option.map_injective renumbering.injective).eq_iff
  simp only [findSource, copiesOf_eq_map, List.findIdx?_map, Function.comp_def, Proc.label_copy,
    Proc.head_copy, sameNumber, Option.isNone_map]

theorem bindInput_copies (offset : Nat) (renumbering : Equiv.Perm Nat) (procs : List (Proc P))
    (position : Nat) (proc : Proc P) :
    bindInput (copiesOf offset renumbering procs) position (proc.copy offset renumbering) =
      bindInput procs position proc := by
  funext input
  simp only [bindInput, Proc.variableIndex?_copy, Proc.label_copy, Proc.head_copy,
    findSource_copies, Proc.declaration?_copy, getElem?_copiesOf]
  cases proc.variableIndex? input.var with
  | none => rfl
  | some destination =>
      cases VarRef.parse input.source with
      | error fault => rfl
      | ok source =>
          dsimp only
          cases findSource procs source.proc proc.head.replica with
          | none => rfl
          | some sourceProc =>
              dsimp only
              cases procs[sourceProc]? with
              | none => rfl
              | some read =>
                  simp only [Option.map_some, Option.bind_some, Proc.variableIndex?_copy,
                    Proc.declaration?_copy]

/-- A created proc moved and renumbered, with its spec. -/
def copied (offset : Nat) (renumbering : Equiv.Perm Nat) (item : Proc P × ProcSpec) :
    Proc P × ProcSpec :=
  (item.1.copy offset renumbering, item.2)

theorem fst_copied (offset : Nat) (renumbering : Equiv.Perm Nat)
    (created : List (Proc P × ProcSpec)) :
    (created.map (copied offset renumbering)).map (·.1) =
      copiesOf offset renumbering (created.map (·.1)) := by
  rw [copiesOf_eq_map, List.map_map, List.map_map]
  rfl

/-- Copies ask for the presets that their originals ask for. -/
theorem zip_copied (offset : Nat) (renumbering : Equiv.Perm Nat) (procs : List (Proc P))
    (created : List (Proc P × ProcSpec)) :
    (copiesOf offset renumbering procs).zip
        ((created.map (copied offset renumbering)).map (·.2)) =
      (procs.zip (created.map (·.2))).map (copied offset renumbering) := by
  have sameSpecs : (created.map (copied offset renumbering)).map (·.2) =
      (created.map (·.2)).map id := by
    rw [List.map_map, List.map_id]
    rfl
  rw [copiesOf_eq_map, sameSpecs]
  exact List.zip_map

theorem bindInputs_copied (offset : Nat) (renumbering : Equiv.Perm Nat)
    (created : List (Proc P × ProcSpec)) :
    bindInputs (created.map (copied offset renumbering)) =
      (bindInputs created).map (copiesOf offset renumbering) := by
  rw [bindInputs, bindInputs, fst_copied, List.zipIdx_map]
  rw [show copiesOf offset renumbering = List.map (Proc.copy (P := P) offset renumbering) from
    funext (copiesOf_eq_map offset renumbering)]
  refine mapM_map fun item => ?_
  obtain ⟨⟨proc, spec⟩, position⟩ := item
  dsimp only [Prod.map, copied, id]
  rw [← copiesOf_eq_map, bindInput_copies]
  cases spec.inputs.mapM (bindInput (created.map (·.1)) position proc) with
  | error fault => rfl
  | ok inputs => exact congrArg Except.ok (Proc.copy_withInputs offset renumbering proc inputs)

theorem checkPolyLimits_copies (offset : Nat) (renumbering : Equiv.Perm Nat)
    (procs : List (Proc P)) :
    checkPolyLimits (copiesOf offset renumbering procs) = checkPolyLimits procs := by
  simp only [checkPolyLimits, copiesOf_eq_map, forM_map, Proc.description_copy,
    List.filter_map, List.length_map, Function.comp_def]

theorem checkSources_copies (offset : Nat) (renumbering : Equiv.Perm Nat) (exposed : List VarRef)
    (procs : List (Proc P)) :
    checkSources exposed (copiesOf offset renumbering procs) = checkSources exposed procs := by
  simp only [checkSources, copiesOf_eq_map, forM_map, Function.comp_def, Proc.description_copy,
    isFed, Proc.head_copy, Proc.label_copy]
  rfl

theorem orderProcs_copies (offset : Nat) (renumbering : Equiv.Perm Nat) (procs : List (Proc P)) :
    orderProcs (copiesOf offset renumbering procs) = orderProcs procs := by
  simp only [orderProcs, copiesOf_eq_map, List.map_map, Function.comp_def, Proc.head_copy,
    List.getElem?_map, Option.map_map, Proc.label_copy]

variable [Processor P] {environment : Environment P} {inner : LevelBuilder P}

/-- Building a level commutes with moving its cells and renumbering its voices. -/
def Relocates (inner : LevelBuilder P) : Prop :=
  ∀ template around exposed (before store : Store P) renumbering, Fits renumbering around →
    inner template (around.map renumbering) exposed (before ++ store) =
      (inner template around exposed store).map
        (Prod.map (Level.copy before.length renumbering) (before ++ ·))

section

variable (relocates : Relocates inner) (before store : Store P)

include relocates

theorem createProc_copy (spec : ProcSpec) (description : ClassDescription P) {number : Option Nat}
    (fits : Fits renumbering number) :
    createProc environment inner spec description (number.map renumbering) (before ++ store) =
      (createProc environment inner spec description number store).map
        (Prod.map (Proc.copy before.length renumbering) (before ++ ·)) := by
  rw [createProc, createProc]
  refine bind_eq_map fun device _ => ?_
  cases description.kind with
  | plain native =>
      refine bind_eq_map fun cell _ => ?_
      rw [List.append_assoc, List.length_append]
      rfl
  | subnet template =>
      dsimp only
      rw [relocates _ _ _ before store renumbering fits]
      refine bind_map_eq ?_
      rintro ⟨level, middle⟩ -
      dsimp only [Prod.map, Level.copy]
      rw [forwards_copies]
      refine bind_eq_map fun targets _ => ?_
      have literals := writeSubnet_behind before middle renumbering
        (.subnet ⟨spec.label, number, description, [], device⟩ level.procs level.order
          level.presets targets) spec
      rw [Proc.copy] at literals
      rw [literals]
      exact bind_map_eq fun last _ => rfl

theorem createVoices_copy (spec : ProcSpec) (description : ClassDescription P)
    {numbers : List (Option Nat)} (fits : ∀ number ∈ numbers, Fits renumbering number) :
    createVoices environment inner spec description (numbers.map (Option.map renumbering))
        (before ++ store) =
      (createVoices environment inner spec description numbers store).map
        (Prod.map (List.map (copied before.length renumbering)) (before ++ ·)) := by
  induction numbers generalizing store with
  | nil => rfl
  | cons number rest inductionHypothesis =>
      rw [List.map_cons, createVoices, createVoices,
        createProc_copy relocates before store spec description (fits number List.mem_cons_self)]
      refine bind_map_eq ?_
      rintro ⟨proc, middle⟩ -
      dsimp only [Prod.map]
      rw [inductionHypothesis middle fun other member =>
        fits other (List.mem_cons_of_mem _ member)]
      exact bind_map_eq fun others _ => rfl

theorem createProcs_copy {around : Option Nat} (fits : Fits renumbering around)
    (specs : List ProcSpec) :
    createProcs environment inner (around.map renumbering) specs (before ++ store) =
      (createProcs environment inner around specs store).map
        (Prod.map (List.map (copied before.length renumbering)) (before ++ ·)) := by
  induction specs generalizing store with
  | nil => rfl
  | cons spec rest inductionHypothesis =>
      rw [createProcs, createProcs]
      cases environment.classes.get? spec.className with
      | none => rfl
      | some description =>
          dsimp only
          rw [voices_copy fits]
          refine bind_map_eq fun numbers voiced => ?_
          rw [createVoices_copy relocates before store spec description (fits.of_voices voiced)]
          refine bind_map_eq ?_
          rintro ⟨first, middle⟩ -
          dsimp only [Prod.map]
          rw [inductionHypothesis middle]
          refine bind_map_eq fun others _ => ?_
          simp only [Except.map, Prod.map, pure, Except.pure, List.map_append]

end

theorem applyConstructionPresets_copied (before store : Store P)
    (items : List (Proc P × ProcSpec)) :
    applyConstructionPresets (items.map (copied before.length renumbering)) (before ++ store) =
      (applyConstructionPresets items store).map (before ++ ·) := by
  induction items generalizing store with
  | nil => rfl
  | cons item rest inductionHypothesis =>
      obtain ⟨proc, spec⟩ := item
      rw [List.map_cons, copied, applyConstructionPresets, applyConstructionPresets]
      cases spec.preset with
      | none => exact inductionHypothesis store
      | some label =>
          dsimp only
          rw [applyClassPreset_behind]
          rcases applyClassPreset proc label store with ⟨written, fault | ⟨⟩⟩
          · rfl
          · exact inductionHypothesis written

theorem relocates_buildLevel (relocates : Relocates inner) :
    Relocates (buildLevel environment inner) := by
  intro template around exposed before store renumbering fits
  rw [buildLevel, buildLevel]
  cases duplicate? [] template.procs with
  | some label => rfl
  | none =>
      dsimp only
      rw [createProcs_copy relocates before store fits]
      refine bind_map_eq ?_
      rintro ⟨created, middle⟩ -
      dsimp only [Prod.map]
      rw [fst_copied, checkPolyLimits_copies, bindInputs_copied]
      refine bind_eq_map fun _ _ => bind_map_eq fun procs _ => ?_
      rw [checkSources_copies, orderProcs_copies]
      refine bind_eq_map fun _ _ => bind_eq_map fun order _ => ?_
      rw [zip_copied, applyConstructionPresets_copied]
      exact bind_map_eq fun last _ => rfl

/-- Levels of every depth are built alike behind any cells and for every voice. -/
theorem relocates_buildNested (environment : Environment P) (depth : Nat) :
    Relocates (buildNested environment depth) := by
  induction depth with
  | zero =>
      intro template around exposed before store renumbering fits
      rfl
  | succ depth inductionHypothesis => exact relocates_buildLevel inductionHypothesis

end Build

end SignalNet
