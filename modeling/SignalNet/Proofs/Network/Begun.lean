import SignalNet.Proofs.Network.Construction

/-!
Contract: how far building had come when it failed.

Procs are made in the order of the template, and voices in the order of their numbers. So where
the making of procs fails, those before are made, and it is the next one that is refused. The
levels that were begun are told from the same order: the one of a subnet is begun when everything
before the subnet is made.

Owns: levels that are begun one inside the other (`Build.Begins`), and the proc at which making
fails (`Build.exists_spec_of_createProcs_error`, `Build.exists_voice_of_createVoices_error`).
-/

set_option autoImplicit false

namespace SignalNet.Build

variable {P : Type} [Processor P]

/-! ## Levels that are begun -/

/-- What the building of a level is asked for. -/
structure Request (P : Type) where
  template : Template
  replica : Option Nat
  exposed : List VarRef
  store : Store P

def Request.build (request : Request P) (builder : LevelBuilder P) :
    Except NetworkError (Level P × Store P) :=
  builder request.template request.replica request.exposed request.store

variable {environment : Environment P} {inner : LevelBuilder P} {fault : NetworkError}

/-- While a level is built, the one below it is begun: the procs before that of the subnet are
made, and so are the earlier voices of the subnet. -/
inductive Opens (environment : Environment P) (inner : LevelBuilder P) (outer : Request P) :
    Request P → Prop where
  | intro {before after : List ProcSpec} {spec : ProcSpec} {description : ClassDescription P}
      {earlier later : List (Option Nat)} {number : Option Nat} {template : Template}
      {created voiced : List (Proc P × ProcSpec)} {middle store : Store P}
      (distinct : duplicate? [] outer.template.procs = none)
      (split : outer.template.procs = before ++ spec :: after)
      (made : createProcs environment inner outer.replica before outer.store =
        .ok (created, middle))
      (known : environment.classes.get? spec.className = some description)
      (numbered : voices description spec outer.replica = .ok (earlier ++ number :: later))
      (sounding : createVoices environment inner spec description earlier middle =
        .ok (voiced, store))
      (isSubnet : description.kind = .subnet template) :
      Opens environment inner outer ⟨template, number, description.vars.filterMap (·.target), store⟩

/-- While a level is built over some depth, another is begun at some depth below it. -/
inductive Begins (environment : Environment P) : Nat → Request P → Nat → Request P → Prop where
  | self (depth : Nat) (request : Request P) : Begins environment depth request depth request
  | inner {depth last : Nat} {outer below lowest : Request P}
      (opens : Opens environment (buildNested environment depth) outer below)
      (begins : Begins environment depth below last lowest) :
      Begins environment (depth + 1) outer last lowest

/-! ## Failures -/

/-- Voices fail at one of them: the earlier ones are made, and it is refused. -/
theorem exists_voice_of_createVoices_error {spec : ProcSpec} {description : ClassDescription P}
    {numbers : List (Option Nat)} {store : Store P}
    (failed : createVoices environment inner spec description numbers store = .error fault) :
    ∃ earlier number later voiced reached, numbers = earlier ++ number :: later ∧
      createVoices environment inner spec description earlier store = .ok (voiced, reached) ∧
      createProc environment inner spec description number reached = .error fault := by
  induction numbers generalizing store with
  | nil => cases failed
  | cons number rest inductionHypothesis =>
      unfold createVoices at failed
      rcases bind_eq_error.mp failed with refused | ⟨⟨proc, middle⟩, here, failed⟩
      · exact ⟨[], number, rest, [], store, rfl, rfl, refused⟩
      rcases bind_eq_error.mp failed with refused | ⟨others, -, impossible⟩
      · obtain ⟨earlier, other, later, voiced, reached, rfl, sounding, refused⟩ :=
          inductionHypothesis refused
        refine ⟨number :: earlier, other, later, (proc, spec) :: voiced, reached, rfl, ?_, refused⟩
        rw [createVoices, here]
        exact bind_eq_ok.mpr ⟨(proc, middle), rfl, bind_eq_ok.mpr ⟨_, sounding, rfl⟩⟩
      · cases impossible

/-- Procs fail at one of their specs: those of the earlier ones are made, and its class is not
known, its voices cannot be numbered, or they fail. -/
theorem exists_spec_of_createProcs_error {replica : Option Nat} {specs : List ProcSpec}
    {store : Store P}
    (failed : createProcs environment inner replica specs store = .error fault) :
    ∃ before spec after created middle, specs = before ++ spec :: after ∧
      createProcs environment inner replica before store = .ok (created, middle) ∧
        (fault = .unknownClass spec.label spec.className ∨
          ∃ description, environment.classes.get? spec.className = some description ∧
            (voices description spec replica = .error fault ∨
              ∃ numbers, voices description spec replica = .ok numbers ∧
                createVoices environment inner spec description numbers middle =
                  .error fault)) := by
  induction specs generalizing store with
  | nil => cases failed
  | cons spec rest inductionHypothesis =>
      unfold createProcs at failed
      split at failed
      · cases failed
        exact ⟨[], spec, rest, [], store, rfl, rfl, .inl rfl⟩
      · rename_i description known
        rcases bind_eq_error.mp failed with refused | ⟨numbers, numbered, failed⟩
        · exact ⟨[], spec, rest, [], store, rfl, rfl, .inr ⟨description, known, .inl refused⟩⟩
        rcases bind_eq_error.mp failed with refused | ⟨⟨first, reached⟩, here, failed⟩
        · exact ⟨[], spec, rest, [], store, rfl, rfl,
            .inr ⟨description, known, .inr ⟨numbers, numbered, refused⟩⟩⟩
        rcases bind_eq_error.mp failed with refused | ⟨others, -, impossible⟩
        · obtain ⟨before, other, after, created, middle, rfl, made, cause⟩ :=
            inductionHypothesis refused
          refine ⟨spec :: before, other, after, first ++ created, middle, rfl, ?_, cause⟩
          rw [createProcs, known]
          exact bind_eq_ok.mpr ⟨numbers, numbered, bind_eq_ok.mpr ⟨_, here,
            bind_eq_ok.mpr ⟨_, made, rfl⟩⟩⟩
        · cases impossible

end SignalNet.Build
