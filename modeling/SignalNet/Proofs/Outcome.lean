import Mathlib.Data.List.Forall2

/-!
Contract: how a computation that may fail has succeeded.

Each lemma takes a successful composite apart into its successful parts, so that
proofs about builders and readers never open a monad.
-/

set_option autoImplicit false

namespace SignalNet

variable {ε ε' α β : Type}

theorem bind_eq_ok {first : Except ε α} {next : α → Except ε β} {result : β} :
    (first >>= next) = .ok result ↔ ∃ value, first = .ok value ∧ next value = .ok result := by
  cases first with
  | error fault => simp [bind, Except.bind]
  | ok value => simp [bind, Except.bind]

theorem map_eq_ok {first : Except ε α} {f : α → β} {result : β} :
    first.map f = .ok result ↔ ∃ value, first = .ok value ∧ f value = result := by
  cases first with
  | error fault => simp [Except.map]
  | ok value => simp [Except.map]

theorem exists_map_eq_ok {first : Except ε α} {f : α → β} :
    (∃ result, first.map f = .ok result) ↔ ∃ value, first = .ok value := by
  cases first with
  | error fault => simp [Except.map]
  | ok value => simp [Except.map]

theorem bind_eq_error {first : Except ε α} {next : α → Except ε β} {fault : ε} :
    (first >>= next) = .error fault ↔
      first = .error fault ∨ ∃ value, first = .ok value ∧ next value = .error fault := by
  cases first with
  | error other => simp [bind, Except.bind]
  | ok value => simp [bind, Except.bind]

theorem map_eq_error {first : Except ε α} {f : α → β} {fault : ε} :
    first.map f = .error fault ↔ first = .error fault := by
  cases first with
  | error other => simp [Except.map]
  | ok value => simp [Except.map]

theorem mapError_eq_ok {first : Except ε α} {f : ε → ε'} {result : α} :
    first.mapError f = .ok result ↔ first = .ok result := by
  cases first with
  | error fault => simp [Except.mapError]
  | ok value => simp [Except.mapError]

theorem mapError_eq_error {first : Except ε α} {f : ε → ε'} {fault : ε'} :
    first.mapError f = .error fault ↔ ∃ cause, first = .error cause ∧ f cause = fault := by
  cases first with
  | error cause => simp [Except.mapError]
  | ok value => simp [Except.mapError]

theorem pure_eq_ok {value result : α} :
    (pure value : Except ε α) = .ok result ↔ value = result := by
  simp [pure, Except.pure]

/-- A traversal succeeds if every item does, and collects the results in order. -/
theorem mapM_eq_ok {f : α → Except ε β} {items : List α} {results : List β} :
    items.mapM f = .ok results ↔
      List.Forall₂ (fun item result => f item = .ok result) items results := by
  induction items generalizing results with
  | nil =>
      rw [List.mapM_nil, pure_eq_ok, List.forall₂_nil_left_iff]
      exact eq_comm
  | cons item rest inductionHypothesis =>
      rw [List.mapM_cons, bind_eq_ok, List.forall₂_cons_left_iff]
      constructor
      · rintro ⟨result, first, others⟩
        obtain ⟨tail, restDone, final⟩ := bind_eq_ok.mp others
        exact ⟨result, tail, first, inductionHypothesis.mp restDone, (pure_eq_ok.mp final).symm⟩
      · rintro ⟨result, tail, first, restDone, rfl⟩
        exact ⟨result, first, bind_eq_ok.mpr
          ⟨tail, inductionHypothesis.mpr restDone, pure_eq_ok.mpr rfl⟩⟩

theorem map_eq_map_iff_forall₂ {γ : Type} {f : α → γ} {g : β → γ} {items : List α}
    {others : List β} :
    items.map f = others.map g ↔
      List.Forall₂ (fun item other => f item = g other) items others := by
  rw [← List.forall₂_eq_eq_eq, List.forall₂_map_left_iff, List.forall₂_map_right_iff]

theorem exists_of_mem_forall₂ {relation : α → β → Prop} {items : List α} {results : List β}
    (related : List.Forall₂ relation items results) {result : β} (member : result ∈ results) :
    ∃ item ∈ items, relation item result := by
  induction related with
  | nil => exact absurd member List.not_mem_nil
  | cons first _ inductionHypothesis =>
      rcases List.mem_cons.mp member with rfl | inRest
      · exact ⟨_, List.mem_cons_self, first⟩
      · obtain ⟨item, listed, here⟩ := inductionHypothesis inRest
        exact ⟨item, List.mem_cons_of_mem _ listed, here⟩

theorem exists_getElem?_of_forall₂ {relation : α → β → Prop} {items : List α} {results : List β}
    (related : List.Forall₂ relation items results) {position : Nat} {item : α}
    (found : items[position]? = some item) :
    ∃ result, results[position]? = some result ∧ relation item result := by
  induction related generalizing position with
  | nil => cases found
  | cons first _ inductionHypothesis =>
      cases position with
      | zero =>
          cases found
          exact ⟨_, rfl, first⟩
      | succ position => exact inductionHypothesis found

theorem exists_forall₂_iff {relation : α → β → Prop} {items : List α} :
    (∃ results, List.Forall₂ relation items results) ↔
      ∀ item ∈ items, ∃ result, relation item result := by
  induction items with
  | nil => exact iff_of_true ⟨[], .nil⟩ (List.forall_mem_nil _)
  | cons item rest inductionHypothesis =>
      rw [List.forall_mem_cons, ← inductionHypothesis]
      constructor
      · rintro ⟨_, _ | ⟨first, others⟩⟩
        exact ⟨⟨_, first⟩, _, others⟩
      · rintro ⟨⟨result, first⟩, results, others⟩
        exact ⟨result :: results, .cons first others⟩

theorem exists_of_mem_mapM {f : α → Except ε β} {items : List α} {results : List β}
    (collected : items.mapM f = .ok results) {result : β} (member : result ∈ results) :
    ∃ item ∈ items, f item = .ok result :=
  exists_of_mem_forall₂ (mapM_eq_ok.mp collected) member

/-- A traversal whose items all succeed succeeds. -/
theorem exists_mapM_eq_ok {f : α → Except ε β} {relation : α → β → Prop} {items : List α}
    (each : ∀ item ∈ items, ∃ result, f item = .ok result ∧ relation item result) :
    ∃ results, items.mapM f = .ok results ∧ List.Forall₂ relation items results := by
  induction items with
  | nil => exact ⟨[], rfl, .nil⟩
  | cons item rest inductionHypothesis =>
      obtain ⟨result, here, related⟩ := each item List.mem_cons_self
      obtain ⟨results, collected, others⟩ :=
        inductionHypothesis fun other member => each other (List.mem_cons_of_mem _ member)
      refine ⟨result :: results, ?_, .cons related others⟩
      exact mapM_eq_ok.mpr (.cons here (mapM_eq_ok.mp collected))

/-- A traversal succeeds exactly if every item has a result. -/
theorem exists_mapM_iff {f : α → Except ε β} {items : List α} :
    (∃ results, items.mapM f = .ok results) ↔ ∀ item ∈ items, ∃ result, f item = .ok result := by
  simp only [mapM_eq_ok]
  exact exists_forall₂_iff

/-- Where every item has a result, a traversal that may give up collects them. -/
theorem mapM_eq_some {f : α → Option β} {g : α → β} {items : List α}
    (each : ∀ item ∈ items, f item = some (g item)) : items.mapM f = some (items.map g) := by
  induction items with
  | nil => rfl
  | cons item rest inductionHypothesis =>
      have others := inductionHypothesis fun other member =>
        each other (List.mem_cons_of_mem _ member)
      rw [List.mapM_cons, each item List.mem_cons_self, others]
      rfl

/-- A sequence of checks succeeds exactly if each check does. -/
theorem forM_eq_ok {f : α → Except ε Unit} {items : List α} :
    items.forM f = .ok () ↔ ∀ item ∈ items, f item = .ok () := by
  induction items with
  | nil => exact iff_of_true rfl (List.forall_mem_nil _)
  | cons item rest inductionHypothesis =>
      rw [List.forM, bind_eq_ok, List.forall_mem_cons, ← inductionHypothesis]
      exact ⟨fun ⟨⟨⟩, first, others⟩ => ⟨first, others⟩, fun ⟨first, others⟩ => ⟨_, first, others⟩⟩

theorem exists_of_mem_foldlM {f : β → α → Except ε β} {items : List α} {start result : β}
    (completed : items.foldlM f start = .ok result) {item : α} (member : item ∈ items) :
    ∃ before after, f before item = .ok after := by
  induction items generalizing start with
  | nil => exact absurd member List.not_mem_nil
  | cons first rest inductionHypothesis =>
      rw [List.foldlM_cons] at completed
      obtain ⟨middle, here, others⟩ := bind_eq_ok.mp completed
      rcases List.mem_cons.mp member with rfl | inRest
      · exact ⟨start, middle, here⟩
      · exact inductionHypothesis others inRest

/-- A fold whose steps succeed from wherever they start succeeds. -/
theorem exists_foldlM_eq_ok {f : β → α → Except ε β} {items : List α}
    (each : ∀ item ∈ items, ∀ before, ∃ after, f before item = .ok after) (start : β) :
    ∃ result, items.foldlM f start = .ok result := by
  induction items generalizing start with
  | nil => exact ⟨start, rfl⟩
  | cons item rest inductionHypothesis =>
      obtain ⟨middle, here⟩ := each item List.mem_cons_self start
      obtain ⟨result, others⟩ :=
        inductionHypothesis (fun other member => each other (List.mem_cons_of_mem _ member)) middle
      refine ⟨result, ?_⟩
      rw [List.foldlM_cons]
      exact bind_eq_ok.mpr ⟨middle, here, others⟩

/-- What every step of a successful fold keeps holds of its result. -/
theorem foldlM_keeps {motive : β → Prop} {f : β → α → Except ε β} {items : List α}
    {start result : β} (initial : motive start)
    (step : ∀ item ∈ items, ∀ before after, motive before → f before item = .ok after →
      motive after)
    (completed : items.foldlM f start = .ok result) : motive result := by
  induction items generalizing start with
  | nil =>
      rw [List.foldlM_nil, pure_eq_ok] at completed
      exact completed ▸ initial
  | cons item rest inductionHypothesis =>
      rw [List.foldlM_cons, bind_eq_ok] at completed
      obtain ⟨middle, first, others⟩ := completed
      exact inductionHypothesis (step item List.mem_cons_self start middle initial first)
        (fun other member => step other (List.mem_cons_of_mem _ member)) others

/-- What is kept by every step of two folds over the same items is kept by both. -/
theorem foldlM_keeps_both {motive : β → β → Prop} {f g : β → α → Except ε β} {items : List α}
    {start other result otherResult : β} (initial : motive start other)
    (step : ∀ item ∈ items, ∀ before otherBefore after otherAfter, motive before otherBefore →
      f before item = .ok after → g otherBefore item = .ok otherAfter → motive after otherAfter)
    (completed : items.foldlM f start = .ok result)
    (otherCompleted : items.foldlM g other = .ok otherResult) : motive result otherResult := by
  induction items generalizing start other with
  | nil =>
      cases completed
      cases otherCompleted
      exact initial
  | cons item rest inductionHypothesis =>
      rw [List.foldlM_cons] at completed otherCompleted
      obtain ⟨after, first, completed⟩ := bind_eq_ok.mp completed
      obtain ⟨otherAfter, otherFirst, otherCompleted⟩ := bind_eq_ok.mp otherCompleted
      exact inductionHypothesis
        (step item List.mem_cons_self _ _ _ _ initial first otherFirst)
        (fun other member => step other (List.mem_cons_of_mem item member)) completed
        otherCompleted

/-- Where each step puts items in front of a list, a fold puts those of the last item first. -/
theorem foldlM_collects {γ : Type} {motive : List γ → β → Prop} {f : β → α → Except ε β}
    {h : α → List γ} {items : List α} {start result : β}
    (step : ∀ item ∈ items, ∀ collected before after, motive collected before →
      f before item = .ok after → motive (h item ++ collected) after)
    {collected : List γ} (initial : motive collected start)
    (completed : items.foldlM f start = .ok result) :
    motive (items.reverse.flatMap h ++ collected) result := by
  induction items generalizing start collected with
  | nil =>
      cases completed
      exact initial
  | cons item rest inductionHypothesis =>
      rw [List.foldlM_cons] at completed
      obtain ⟨middle, first, others⟩ := bind_eq_ok.mp completed
      rw [List.reverse_cons, List.flatMap_append, List.flatMap_singleton, List.append_assoc]
      exact inductionHypothesis
        (fun other member => step other (List.mem_cons_of_mem _ member))
        (step item List.mem_cons_self collected start middle initial first) others

/-- The same for a fold that gives no reason when it fails. -/
theorem foldlM_keeps_of_some {motive : β → Prop} {f : β → α → Option β} {items : List α}
    {start result : β} (initial : motive start)
    (step : ∀ item ∈ items, ∀ before after, motive before → f before item = some after →
      motive after)
    (completed : items.foldlM f start = some result) : motive result := by
  induction items generalizing start with
  | nil =>
      cases completed
      exact initial
  | cons item rest inductionHypothesis =>
      rw [List.foldlM_cons] at completed
      obtain ⟨middle, first, others⟩ := Option.bind_eq_some_iff.mp completed
      exact inductionHypothesis (step item List.mem_cons_self start middle initial first)
        (fun other member => step other (List.mem_cons_of_mem _ member)) others

theorem exists_of_foldlM_error {f : β → α → Except ε β} {items : List α} {start : β} {fault : ε}
    (failed : items.foldlM f start = .error fault) :
    ∃ item ∈ items, ∃ before, f before item = .error fault := by
  induction items generalizing start with
  | nil => cases failed
  | cons item rest inductionHypothesis =>
      rw [List.foldlM_cons] at failed
      cases first : f start item with
      | error other =>
          rw [first] at failed
          cases failed
          exact ⟨item, List.mem_cons_self, start, first⟩
      | ok middle =>
          rw [first] at failed
          obtain ⟨later, member, before, here⟩ := inductionHypothesis failed
          exact ⟨later, List.mem_cons_of_mem _ member, before, here⟩

/-- A traversal fails where one of its items does. -/
theorem exists_of_mapM_error {f : α → Except ε β} {items : List α} {fault : ε}
    (failed : items.mapM f = .error fault) : ∃ item ∈ items, f item = .error fault := by
  induction items with
  | nil => cases failed
  | cons item rest inductionHypothesis =>
      rw [List.mapM_cons] at failed
      rcases bind_eq_error.mp failed with here | ⟨result, -, failed⟩
      · exact ⟨item, List.mem_cons_self, here⟩
      · rcases bind_eq_error.mp failed with later | ⟨results, -, impossible⟩
        · obtain ⟨other, member, there⟩ := inductionHypothesis later
          exact ⟨other, List.mem_cons_of_mem _ member, there⟩
        · cases impossible

theorem exists_of_forM_error {f : α → Except ε Unit} {items : List α} {fault : ε}
    (failed : items.forM f = .error fault) : ∃ item ∈ items, f item = .error fault := by
  induction items with
  | nil => cases failed
  | cons item rest inductionHypothesis =>
      rw [List.forM] at failed
      rcases bind_eq_error.mp failed with here | ⟨⟨⟩, -, later⟩
      · exact ⟨item, List.mem_cons_self, here⟩
      · obtain ⟨other, member, there⟩ := inductionHypothesis later
        exact ⟨other, List.mem_cons_of_mem _ member, there⟩

/-! ## Sequences in another representation -/

/-- What follows a translated outcome is translated, if it is after each result. -/
theorem bind_map_eq {γ δ : Type} {outcome : Except ε α} {f : α → Except ε β}
    {g : γ → Except ε δ} {h : α → γ} {k : β → δ}
    (step : ∀ result, outcome = .ok result → g (h result) = (f result).map k) :
    (outcome.map h >>= g) = (outcome >>= f).map k := by
  cases outcome with
  | error fault => rfl
  | ok result => exact step result rfl

/-- The same where the outcome itself needs no translation. -/
theorem bind_eq_map {δ : Type} {outcome : Except ε α} {f : α → Except ε β} {g : α → Except ε δ}
    {h : β → δ} (step : ∀ result, outcome = .ok result → g result = (f result).map h) :
    (outcome >>= g) = (outcome >>= f).map h := by
  cases outcome with
  | error fault => rfl
  | ok result => exact step result rfl

/-! ## Traversals of another representation -/

/-- A traversal whose items answer through a translation answers through it. -/
theorem mapM_map {γ δ : Type} {f : α → Except ε β} {g : γ → Except ε δ} {i : α → γ} {h : β → δ}
    (step : ∀ item, g (i item) = (f item).map h) {items : List α} :
    (items.map i).mapM g = (items.mapM f).map (List.map h) := by
  induction items with
  | nil => rfl
  | cons item rest inductionHypothesis =>
      rw [List.map_cons, List.mapM_cons, List.mapM_cons, step, inductionHypothesis]
      cases f item with
      | error fault => rfl
      | ok result =>
          cases rest.mapM f with
          | error fault => rfl
          | ok results => rfl

theorem forM_map {f : α → β} {g : β → Except ε Unit} {items : List α} :
    (items.map f).forM g = items.forM (g ∘ f) := by
  induction items with
  | nil => rfl
  | cons item rest inductionHypothesis =>
      rw [List.map_cons, List.forM, List.forM, inductionHypothesis]
      rfl

/-- A fold whose steps commute with a translation of the state commutes with it. -/
theorem foldlM_map {γ : Type} {f : β → α → Except ε β} {g : γ → α → Except ε γ} {h : β → γ}
    (step : ∀ state item, g (h state) item = (f state item).map h) {items : List α} {start : β} :
    items.foldlM g (h start) = (items.foldlM f start).map h := by
  induction items generalizing start with
  | nil => rfl
  | cons item rest inductionHypothesis =>
      rw [List.foldlM_cons, List.foldlM_cons, step]
      cases f start item with
      | error fault => rfl
      | ok next => exact inductionHypothesis

end SignalNet
