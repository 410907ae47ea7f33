import Mathlib.Logic.Function.Iterate
import SignalNet.Network.Build
import SignalNet.Proofs.Schema.Circularity
import SignalNet.Proofs.Schema.Inheritance

/-!
Contract: resolving and building end, and only circles stand in the way.

A level is built with a builder for the levels inside it, which is asked only for the
templates of the subnets that the level has procs of. Without circles these chains are no
longer than there are subnets. So whatever stands below that many levels is never asked
for, and the recursion over the nesting has a single outcome.

Owns: what a level asks its inner builder for (`buildLevel_congr`), the bound on the
levels (`iterate_buildLevel_eq`), and the law of whole class sets
(`finish_and_build_end`).
-/

set_option autoImplicit false

namespace SignalNet

open Relation (TransGen)

variable {P : Type} [Processor P]

namespace Build

variable {environment : Environment P} {first second : LevelBuilder P}

/-! ## What a level asks for -/

theorem createProc_congr {spec : ProcSpec} {description : ClassDescription P}
    (agree : ∀ below, description.template? = some below → first below = second below)
    (replica : Option Nat) (store : Store P) :
    createProc environment first spec description replica store =
      createProc environment second spec description replica store := by
  rw [createProc, createProc]
  cases kind : description.kind with
  | plain native => rfl
  | subnet below =>
      have isBelow : description.template? = some below := by
        rw [ClassDescription.template?, kind]
      simp only [agree below isBelow]

theorem createVoices_congr {spec : ProcSpec} {description : ClassDescription P}
    (agree : ∀ below, description.template? = some below → first below = second below)
    (numbers : List (Option Nat)) (store : Store P) :
    createVoices environment first spec description numbers store =
      createVoices environment second spec description numbers store := by
  induction numbers generalizing store with
  | nil => rfl
  | cons number rest inductionHypothesis =>
      simp only [createVoices, createProc_congr agree, inductionHypothesis]

theorem createProcs_congr {specs : List ProcSpec}
    (agree : ∀ spec ∈ specs, ∀ below,
      environment.classes.template? spec.className = some below → first below = second below)
    (replica : Option Nat) (store : Store P) :
    createProcs environment first replica specs store =
      createProcs environment second replica specs store := by
  induction specs generalizing store with
  | nil => rfl
  | cons spec rest inductionHypothesis =>
      rw [createProcs, createProcs]
      cases found : environment.classes.get? spec.className with
      | none => rfl
      | some description =>
          have here : ∀ below, description.template? = some below → first below = second below := by
            intro below isBelow
            refine agree spec List.mem_cons_self below ?_
            rw [ClassSet.template?, found, Option.bind_some, isBelow]
          have later := inductionHypothesis fun other member =>
            agree other (List.mem_cons_of_mem _ member)
          simp only [createVoices_congr here, later]

/-- A level asks for the levels of the subnets that it has procs of, and for nothing else. -/
theorem buildLevel_congr {template : Template}
    (agree : ∀ spec ∈ template.procs, ∀ below,
      environment.classes.template? spec.className = some below → first below = second below) :
    buildLevel environment first template = buildLevel environment second template := by
  funext replica exposed store
  rw [buildLevel, buildLevel, createProcs_congr agree]

/-! ## The bound on the levels -/

theorem buildNested_add (environment : Environment P) (levels depth : Nat) :
    buildNested environment (levels + depth) =
      (buildLevel environment)^[levels] (buildNested environment depth) := by
  induction levels with
  | zero => rw [Nat.zero_add, Function.iterate_zero_apply]
  | succ levels inductionHypothesis =>
      rw [Nat.add_right_comm, buildNested, inductionHypothesis, Function.iterate_succ_apply']

theorem iterate_buildLevel_congr {depth : Nat} {template : Template}
    (within : ∀ spec ∈ template.procs, environment.classes.NestsWithin depth spec.className)
    (bottom other : LevelBuilder P) :
    (buildLevel environment)^[depth + 1] bottom template =
      (buildLevel environment)^[depth + 1] other template := by
  induction depth generalizing template with
  | zero =>
      rw [Function.iterate_succ_apply', Function.iterate_succ_apply']
      apply buildLevel_congr
      intro spec member below isBelow
      rw [within spec member] at isBelow
      cases isBelow
  | succ depth inductionHypothesis =>
      rw [Function.iterate_succ_apply' _ (depth + 1), Function.iterate_succ_apply' _ (depth + 1)]
      apply buildLevel_congr
      intro spec member below isBelow
      apply inductionHypothesis
      intro inner innerMember
      exact within spec member inner.className ⟨below, isBelow, inner, innerMember, rfl⟩

/-- One level for the root and one for each subnet are enough, whatever stands below. -/
theorem iterate_buildLevel_eq (acyclic : environment.classes.Acyclic) (bottom : LevelBuilder P) :
    (buildLevel environment)^[environment.classes.classes.countP (·.isSubnet) + 1] bottom =
      buildNested environment (depthLimit environment.classes) := by
  have fewer : environment.classes.classes.countP (·.isSubnet) ≤ environment.classes.size :=
    List.countP_le_length
  obtain ⟨rest, enough⟩ : ∃ rest, depthLimit environment.classes =
      environment.classes.classes.countP (·.isSubnet) + 1 + rest :=
    Nat.exists_eq_add_of_le (by unfold depthLimit; omega)
  funext template
  rw [enough, buildNested_add]
  exact iterate_buildLevel_congr (fun spec _ => acyclic.nestsWithin spec.className) _ _

end Build

/-! ## Whole class sets -/

/-- Whatever tables were read, finishing succeeds exactly if no subnet reaches itself,
unless a variable stands for something that is not there. A subnet that is reported to nest
itself does reach itself. The search for circles ends by itself: no bound above the number
of classes changes what it finds. Over a finished set nesting is well founded, and building
goes at most one level deeper than there are subnets: what stands below is never asked
for. -/
theorem finish_and_build_end (registry : Registry P) (tables : List (List (String × Toml))) :
    let catalogue := (Catalogue.empty registry).addTables tables
    ((∀ className var target cause,
        catalogue.finish ≠ .error (.targetNotFound className var target cause)) →
      ((∃ classes, catalogue.finish = .ok classes) ↔
        ∀ label, ¬ TransGen catalogue.Nests label label)) ∧
    (∀ context path, catalogue.finish = .error (.badSyntax context (.nestsItself path)) →
      ∃ label, context = below (below "subnets" label) "network" ∧
        TransGen catalogue.Nests label label) ∧
    (∀ (set : ClassSet P) (depth : Nat) cleared label, set.size < depth →
      set.visit depth [] cleared label = set.visit (set.size + 1) [] cleared label) ∧
    ∀ classes, catalogue.finish = .ok classes →
      WellFounded (fun inner outer => classes.Nests outer inner) ∧
        ∀ timing devices bottom,
          (Build.buildLevel ⟨classes, timing, devices⟩)^[classes.classes.countP (·.isSubnet) + 1]
              bottom =
            Build.buildNested ⟨classes, timing, devices⟩ (Build.depthLimit classes) := by
  intro catalogue
  obtain ⟨wellFormed, -⟩ := Catalogue.wellFormed_addTables registry tables
  have declared := (Catalogue.declared_addTables registry tables).2
  refine ⟨?_, ?_, ?_, ?_⟩
  · intro noneMissing
    refine wellFormed.finish_iff_acyclic declared ?_
    rintro fault failed ⟨className, var, target, cause, rfl⟩
    exact noneMissing className var target cause failed
  · intro context path failed
    rcases wellFormed.error_of_finish declared failed with
      ⟨_, _, _, _, isMissing⟩ | ⟨⟨_, isEndless⟩, -⟩ | ⟨label, _, nestsItself, circle⟩
    · cases isMissing
    · cases isEndless
    · cases nestsItself
      exact ⟨label, rfl, circle⟩
  · intro set depth cleared label deep
    obtain ⟨more, rfl⟩ := Nat.exists_eq_add_of_le (Nat.succ_le_of_lt deep)
    exact ClassSet.visit_add List.nodup_nil (fun _ member => absurd member List.not_mem_nil)
      (Nat.lt_succ_self _) more cleared label
  · intro classes finished
    have acyclic := ClassSet.checkNesting_eq_ok_iff.mp (wellFormed.finish_eq_ok.mp finished).2
    exact ⟨⟨fun label => (acyclic.nestsWithin label).acc⟩,
      fun timing devices bottom => Build.iterate_buildLevel_eq acyclic bottom⟩

namespace Rings

/-- Two subnets, each with a proc of the other. -/
def tables : List (List (String × Toml)) :=
  [[("subnets", .table [Shells.shell "first" [("class", .string "second")] [],
    Shells.shell "second" [("class", .string "first")] []])]]

theorem finish_eq :
    ((Catalogue.empty Registry.builtin).addTables tables).finish =
      .error (.badSyntax "subnets.first.network" (.nestsItself ["first", "second"])) :=
  (Catalogue.wellFormed_addTables Registry.builtin tables).1.finish_eq_error
    (Catalogue.resolveAll_of_resolveRound rfl) rfl

end Rings

/-- Two shells around a class finish, so none reaches itself, and three levels are enough to
build over them; of a ring of two subnets, the one that is reported reaches itself. -/
theorem shells_end_rings_refused :
    let shells := (Catalogue.empty Registry.builtin).addTables Shells.tables
    let rings := (Catalogue.empty Registry.builtin).addTables Rings.tables
    (shells.finish = .ok Shells.classes ∧ (∀ label, ¬ TransGen shells.Nests label label) ∧
      Shells.classes.visit 9 [] [] "outer" = Shells.classes.visit 5 [] [] "outer" ∧
        WellFounded (fun inner outer => Shells.classes.Nests outer inner) ∧
          ∀ timing devices bottom,
            (Build.buildLevel ⟨Shells.classes, timing, devices⟩)^[3] bottom =
              Build.buildNested ⟨Shells.classes, timing, devices⟩ 10) ∧
    rings.finish = .error (.badSyntax "subnets.first.network" (.nestsItself ["first", "second"])) ∧
      ∃ label, "subnets.first.network" = below (below "subnets" label) "network" ∧
        TransGen rings.Nests label label := by
  intro shells rings
  obtain ⟨succeeds, -, searches, builds⟩ := finish_and_build_end Registry.builtin Shells.tables
  obtain ⟨-, reported, -, -⟩ := finish_and_build_end Registry.builtin Rings.tables
  have noneMissing : ∀ className var target cause,
      shells.finish ≠ .error (.targetNotFound className var target cause) := by
    intro className var target cause failed
    rw [Shells.finish_eq] at failed
    cases failed
  obtain ⟨wellFounded, sameLevels⟩ := builds Shells.classes Shells.finish_eq
  exact ⟨⟨Shells.finish_eq, (succeeds noneMissing).mp ⟨_, Shells.finish_eq⟩,
    searches Shells.classes 9 [] "outer" (by decide), wellFounded, sameLevels⟩, Rings.finish_eq,
    reported _ _ Rings.finish_eq⟩

end SignalNet
