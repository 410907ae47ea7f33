import Mathlib.Data.List.Perm.Subperm
import Mathlib.Logic.Relation
import SignalNet.Proofs.Schema.Settled

/-!
Contract: the check for circular nesting refuses exactly the circular sets.

The search lists the classes that it has cleared, the last one first. Such a list is
closed: what a cleared class nests is behind it. So no cleared class reaches itself. The
other way round, the search refuses a class only when it meets it on the path that led
there, which is a circle.

Owns: nesting (`ClassSet.Nests`), closed lists (`ClassSet.Finished`), and the two
directions of the check (`checkNesting_eq_ok_iff`, `reaches_of_checkNesting_error`).
-/

set_option autoImplicit false

namespace SignalNet

open Relation (TransGen ReflTransGen)

variable {P : Type}

namespace ClassSet

/-- A subnet nests a class if one of the procs of its network is of that class. -/
def Nests (set : ClassSet P) (outer inner : String) : Prop :=
  ∃ template, set.template? outer = some template ∧
    ∃ spec ∈ template.procs, spec.className = inner

/-- No class reaches itself by nesting. -/
def Acyclic (set : ClassSet P) : Prop := ∀ label, ¬ TransGen set.Nests label label

/-- Every subnet that a class in the list nests stands behind that class. -/
def Finished (set : ClassSet P) : List String → Prop
  | [] => True
  | label :: rest =>
      (∀ inner, set.Nests label inner → (set.template? inner).isSome = true → inner ∈ rest) ∧
        Finished set rest

variable {set : ClassSet P}

theorem Nests.isSome {outer inner : String} (nests : set.Nests outer inner) :
    (set.template? outer).isSome = true := by
  obtain ⟨template, isTemplate, -⟩ := nests
  rw [isTemplate, Option.isSome_some]

theorem isSome_of_reaches {outer inner : String} (reaches : TransGen set.Nests outer inner) :
    (set.template? outer).isSome = true := by
  obtain ⟨middle, first, -⟩ := TransGen.head'_iff.mp reaches
  exact first.isSome

/-! ## Closed lists -/

namespace Finished

theorem closed {cleared : List String} (finished : set.Finished cleared) {outer inner : String}
    (member : outer ∈ cleared) (nests : set.Nests outer inner)
    (isSubnet : (set.template? inner).isSome = true) : inner ∈ cleared := by
  induction cleared with
  | nil => exact absurd member List.not_mem_nil
  | cons label rest inductionHypothesis =>
      apply List.mem_cons_of_mem _
      rcases List.mem_cons.mp member with rfl | inRest
      · exact finished.1 inner nests isSubnet
      · exact inductionHypothesis finished.2 inRest

theorem reaches {cleared : List String} (finished : set.Finished cleared) {outer inner : String}
    (member : outer ∈ cleared) (path : ReflTransGen set.Nests outer inner)
    (isSubnet : (set.template? inner).isSome = true) : inner ∈ cleared := by
  induction path with
  | refl => exact member
  | tail _ nests inductionHypothesis =>
      exact finished.closed (inductionHypothesis nests.isSome) nests isSubnet

theorem irreflexive {cleared : List String} (finished : set.Finished cleared) {label : String}
    (member : label ∈ cleared) : ¬ TransGen set.Nests label label := by
  induction cleared with
  | nil => exact absurd member List.not_mem_nil
  | cons first rest inductionHypothesis =>
      rcases List.mem_cons.mp member with rfl | inRest
      · intro circle
        obtain ⟨inner, nests, back⟩ := TransGen.head'_iff.mp circle
        have innerSubnet : (set.template? inner).isSome = true := by
          rcases back.cases_head with rfl | ⟨next, further, -⟩
          · exact nests.isSome
          · exact further.isSome
        have innerBehind := finished.1 inner nests innerSubnet
        have behind := reaches finished.2 innerBehind back nests.isSome
        exact inductionHypothesis finished.2 behind circle
      · exact inductionHypothesis finished.2 inRest

end Finished

/-! ## The search -/

/-- What the search reports as nested in itself does reach itself. -/
def Circular (set : ClassSet P) (fault : SchemaError) : Prop :=
  ∃ label path, fault = .badSyntax (below (below "subnets" label) "network") (.nestsItself path) ∧
    TransGen set.Nests label label

theorem circular_of_visit_error {depth : Nat} {path cleared : List String} {label : String}
    {fault : SchemaError} (around : ∀ outer ∈ path, TransGen set.Nests outer label)
    (failed : set.visit depth path cleared label = .error fault) : set.Circular fault := by
  induction depth generalizing path cleared label with
  | zero => cases failed
  | succ depth inductionHypothesis =>
      rw [visit] at failed
      split at failed
      · cases failed
      · split at failed
        · rename_i onPath
          cases failed
          exact ⟨label, path, rfl, around label onPath⟩
        · split at failed
          · cases failed
          · rename_i template isTemplate
            cases inside : template.procs.foldlM (fun cleared spec =>
                visit set depth (path ++ [label]) cleared spec.className) cleared with
            | ok result =>
                rw [inside] at failed
                cases failed
            | error other =>
                rw [inside] at failed
                cases failed
                obtain ⟨spec, member, before, here⟩ := exists_of_foldlM_error inside
                have nests : set.Nests label spec.className :=
                  ⟨template, isTemplate, spec, member, rfl⟩
                refine inductionHypothesis ?_ here
                intro outer onPath
                rcases List.mem_append.mp onPath with earlier | last
                · exact (around outer earlier).tail nests
                · rw [List.mem_singleton.mp last]
                  exact TransGen.single nests

/-- A part of the search has extended a closed list by the subnets that it visited. -/
structure Cleared (set : ClassSet P) (before visited after : List String) : Prop where
  finished : set.Finished after
  grown : ∀ label ∈ before, label ∈ after
  reached : ∀ label ∈ visited, (set.template? label).isSome = true → label ∈ after

theorem cleared_of_foldlM {α : Type} {search : List String → α → Except SchemaError (List String)}
    {labelOf : α → String} {items : List α} {start result : List String}
    (each : ∀ item ∈ items, ∀ before after, set.Finished before →
      search before item = .ok after → set.Cleared before [labelOf item] after)
    (finished : set.Finished start) (completed : items.foldlM search start = .ok result) :
    set.Cleared start (items.map labelOf) result := by
  induction items generalizing start with
  | nil =>
      cases completed
      exact ⟨finished, fun _ member => member, fun _ member => absurd member List.not_mem_nil⟩
  | cons item rest inductionHypothesis =>
      rw [List.foldlM_cons] at completed
      obtain ⟨middle, first, others⟩ := bind_eq_ok.mp completed
      have here := each item List.mem_cons_self start middle finished first
      have later := inductionHypothesis (fun other member =>
        each other (List.mem_cons_of_mem _ member)) here.finished others
      refine ⟨later.finished, fun label member => later.grown label (here.grown label member), ?_⟩
      intro label member isSubnet
      rcases List.mem_cons.mp member with rfl | inRest
      · exact later.grown _ (here.reached _ List.mem_cons_self isSubnet)
      · exact later.reached label inRest isSubnet

/-- A path without repetition is no longer than there are subnets. -/
theorem length_path_le_countP {path : List String} (distinct : path.Nodup)
    (subnets : ∀ label ∈ path, (set.template? label).isSome = true) :
    path.length ≤ set.classes.countP (·.isSubnet) := by
  have contained : path ⊆ (set.classes.filter (·.isSubnet)).map (·.label) := by
    intro label member
    have isSubnet := subnets label member
    rw [template?] at isSubnet
    cases found : set.get? label with
    | none =>
        rw [found] at isSubnet
        cases isSubnet
    | some description =>
        rw [found] at isSubnet
        exact List.mem_map.mpr ⟨description,
          List.mem_filter.mpr ⟨List.mem_of_find?_eq_some found, isSubnet⟩, label_of_get? found⟩
  have bounded := (List.subperm_of_subset distinct contained).length_le
  rwa [List.length_map, ← List.countP_eq_length_filter] at bounded

theorem length_path_le {path : List String} (distinct : path.Nodup)
    (subnets : ∀ label ∈ path, (set.template? label).isSome = true) :
    path.length ≤ set.size :=
  Nat.le_trans (length_path_le_countP distinct subnets) List.countP_le_length

/-- The path to a subnet that is not on it, with that subnet at its end, still has no
repetition and consists of subnets. -/
theorem path_snoc {path : List String} {label : String} (distinct : path.Nodup)
    (subnets : ∀ outer ∈ path, (set.template? outer).isSome = true) (fresh : label ∉ path)
    (isSubnet : (set.template? label).isSome = true) :
    (path ++ [label]).Nodup ∧ ∀ outer ∈ path ++ [label], (set.template? outer).isSome = true := by
  constructor
  · refine List.nodup_append.mpr ⟨distinct, List.nodup_singleton _, ?_⟩
    rintro outer onPath _ isLast rfl
    exact fresh (List.mem_singleton.mp isLast ▸ onPath)
  · intro outer member
    rcases List.mem_append.mp member with earlier | last
    · exact subnets outer earlier
    · rw [List.mem_singleton.mp last]
      exact isSubnet

/-- The bound of the search never stops it: with more room it finds the same. -/
theorem visit_add {depth : Nat} {path : List String} (distinct : path.Nodup)
    (subnets : ∀ outer ∈ path, (set.template? outer).isSome = true)
    (deep : set.size < depth + path.length) (more : Nat) (cleared : List String)
    (label : String) :
    set.visit (depth + more) path cleared label = set.visit depth path cleared label := by
  induction depth generalizing path cleared label with
  | zero =>
      have bounded := length_path_le distinct subnets
      omega
  | succ depth inductionHypothesis =>
      rw [Nat.add_right_comm, visit, visit]
      by_cases known : label ∈ cleared
      · rw [if_pos known, if_pos known]
      · rw [if_neg known, if_neg known]
        by_cases onPath : label ∈ path
        · rw [if_pos onPath, if_pos onPath]
        · rw [if_neg onPath, if_neg onPath]
          cases isTemplate : set.template? label with
          | none => rfl
          | some template =>
              obtain ⟨longerDistinct, longerSubnets⟩ :=
                path_snoc distinct subnets onPath (Option.isSome_of_eq_some isTemplate)
              have stillDeep : set.size < depth + (path ++ [label]).length := by
                rw [List.length_append, List.length_singleton]
                omega
              simp only [inductionHypothesis longerDistinct longerSubnets stillDeep]

/-- A completed search has cleared the class that it started from. -/
theorem cleared_of_visit {depth : Nat} {path before after : List String} {label : String}
    (distinct : path.Nodup) (subnets : ∀ outer ∈ path, (set.template? outer).isSome = true)
    (deep : set.size < depth + path.length) (finished : set.Finished before)
    (completed : set.visit depth path before label = .ok after) :
    set.Cleared before [label] after := by
  induction depth generalizing path before after label with
  | zero =>
      have bounded := length_path_le distinct subnets
      omega
  | succ depth inductionHypothesis =>
      have same : ∀ {result}, before = result → ((set.template? label).isSome = true →
          label ∈ before) → set.Cleared before [label] result := by
        rintro result rfl known
        exact ⟨finished, fun _ member => member, fun other member =>
          List.mem_singleton.mp member ▸ known⟩
      rw [visit] at completed
      split at completed
      · rename_i known
        exact same (Except.ok.inj completed) fun _ => known
      · split at completed
        · cases completed
        · rename_i notOnPath
          split at completed
          · rename_i noNetwork
            apply same (Except.ok.inj completed)
            intro isSubnet
            rw [noNetwork] at isSubnet
            cases isSubnet
          · rename_i template isTemplate
            obtain ⟨inside, searched, rfl⟩ := map_eq_ok.mp completed
            have isSubnet : (set.template? label).isSome = true := by
              rw [isTemplate, Option.isSome_some]
            obtain ⟨longerDistinct, longerSubnets⟩ :=
              path_snoc distinct subnets notOnPath isSubnet
            have stillDeep : set.size < depth + (path ++ [label]).length := by
              rw [List.length_append, List.length_singleton]
              omega
            have each : ∀ spec ∈ template.procs, ∀ start result, set.Finished start →
                set.visit depth (path ++ [label]) start spec.className = .ok result →
                  set.Cleared start [spec.className] result :=
              fun _ _ _ _ startFinished visited =>
                inductionHypothesis longerDistinct longerSubnets stillDeep startFinished visited
            have children := cleared_of_foldlM each finished searched
            refine ⟨⟨?_, children.finished⟩, fun other member =>
              List.mem_cons_of_mem _ (children.grown other member), ?_⟩
            · rintro inner ⟨template', isTemplate', spec, member, rfl⟩ innerSubnet
              rw [isTemplate] at isTemplate'
              cases isTemplate'
              exact children.reached _ (List.mem_map_of_mem member) innerSubnet
            · intro other member _
              rw [List.mem_singleton.mp member]
              exact List.mem_cons_self

/-! ## The check -/

/-- A failed check has found a class that reaches itself. -/
theorem circular_of_checkNesting_error {fault : SchemaError}
    (failed : set.checkNesting = .error fault) : set.Circular fault := by
  unfold checkNesting at failed
  cases searched : (set.classes.filter (·.isSubnet)).foldlM (fun cleared description =>
      set.visit (set.size + 1) [] cleared description.label) [] with
  | ok cleared =>
      rw [searched] at failed
      cases failed
  | error other =>
      rw [searched] at failed
      cases failed
      obtain ⟨description, -, before, here⟩ := exists_of_foldlM_error searched
      exact circular_of_visit_error (fun _ member => absurd member List.not_mem_nil) here

/-- The check passes exactly if no class reaches itself. -/
theorem checkNesting_eq_ok_iff : set.checkNesting = .ok () ↔ set.Acyclic := by
  constructor
  · intro passed label circle
    obtain ⟨cleared, searched, -⟩ := map_eq_ok.mp passed
    have each : ∀ description ∈ set.classes.filter (·.isSubnet), ∀ before after,
        set.Finished before → set.visit (set.size + 1) [] before description.label = .ok after →
          set.Cleared before [description.label] after := by
      intro description _ before after finished visited
      have deep : set.size < set.size + 1 + ([] : List String).length := Nat.lt_succ_self _
      exact cleared_of_visit List.nodup_nil (fun _ member => absurd member List.not_mem_nil) deep
        finished visited
    have start : set.Finished [] := trivial
    have reached := cleared_of_foldlM each start searched
    have isSubnet := isSome_of_reaches circle
    have listed : label ∈ (set.classes.filter (·.isSubnet)).map fun each => each.label := by
      rw [template?] at isSubnet
      cases found : set.get? label with
      | none =>
          rw [found] at isSubnet
          cases isSubnet
      | some description =>
          rw [found] at isSubnet
          exact List.mem_map.mpr ⟨description,
            List.mem_filter.mpr ⟨List.mem_of_find?_eq_some found, isSubnet⟩, label_of_get? found⟩
    exact reached.finished.irreflexive (reached.reached label listed isSubnet) circle
  · intro acyclic
    cases result : set.checkNesting with
    | ok checked => rfl
    | error fault =>
        obtain ⟨label, path, -, circle⟩ := circular_of_checkNesting_error result
        exact absurd circle (acyclic label)

/-! ## The depth of nesting -/

/-- Below a class, subnets nest at most `depth` deep, the class included. -/
def NestsWithin (set : ClassSet P) : Nat → String → Prop
  | 0, label => set.template? label = none
  | depth + 1, label => ∀ inner, set.Nests label inner → set.NestsWithin depth inner

/-- Without circles, a chain of nested subnets has each subnet at most once. -/
theorem Acyclic.nestsWithin (acyclic : set.Acyclic) (label : String) :
    set.NestsWithin (set.classes.countP (·.isSubnet)) label := by
  have behind : ∀ (depth : Nat) (path : List String) (label : String), path.Nodup →
      (∀ outer ∈ path, TransGen set.Nests outer label) →
        set.classes.countP (·.isSubnet) ≤ path.length + depth → set.NestsWithin depth label := by
    intro depth
    induction depth with
    | zero =>
        intro path label distinct around full
        rw [NestsWithin, ← Option.not_isSome_iff_eq_none]
        intro isSubnet
        have fresh : label ∉ path := fun onPath => acyclic label (around label onPath)
        obtain ⟨longerDistinct, longerSubnets⟩ := path_snoc distinct
          (fun outer onPath => isSome_of_reaches (around outer onPath)) fresh isSubnet
        have bounded := length_path_le_countP longerDistinct longerSubnets
        rw [List.length_append, List.length_singleton] at bounded
        omega
    | succ depth inductionHypothesis =>
        intro path label distinct around bound inner nests
        have fresh : label ∉ path := fun onPath => acyclic label (around label onPath)
        obtain ⟨longerDistinct, -⟩ := path_snoc distinct
          (fun outer onPath => isSome_of_reaches (around outer onPath)) fresh nests.isSome
        refine inductionHypothesis (path ++ [label]) inner longerDistinct ?_ ?_
        · intro outer member
          rcases List.mem_append.mp member with earlier | last
          · exact (around outer earlier).tail nests
          · rw [List.mem_singleton.mp last]
            exact TransGen.single nests
        · rw [List.length_append, List.length_singleton]
          omega
  exact behind _ [] label List.nodup_nil (fun _ member => absurd member List.not_mem_nil)
    (Nat.le_add_left _ _)

theorem NestsWithin.acc {depth : Nat} {label : String} (within : set.NestsWithin depth label) :
    Acc (fun inner outer => set.Nests outer inner) label := by
  induction depth generalizing label with
  | zero =>
      refine ⟨_, fun inner nests => ?_⟩
      have isSubnet := nests.isSome
      rw [within] at isSubnet
      cases isSubnet
  | succ depth inductionHypothesis =>
      exact ⟨_, fun inner nests => inductionHypothesis (within inner nests)⟩

end ClassSet

end SignalNet
