import SignalNet.Proofs.Network.Written
import SignalNet.Proofs.Variable.Bank

/-!
Contract: what writes do to single channels.

A place is one channel of one native variable. A write puts the converted value into
the places it reaches and leaves all others alone; no write makes, removes or retypes a
place.

Owns: `Store.place?`, one step of a write by what is in its place
(`Store.write_cons_of_stored` and its companions), and the equations of places for every way
of writing.
-/

set_option autoImplicit false

namespace SignalNet

variable {P : Type}

theorem Cell.write_eq_ok [Processor P] {cell : Cell P} {notify : Bool} {var ch : Nat}
    {source : Value} {changed? : Option (Cell P)} :
    cell.write notify var ch source = .ok changed? ↔
      (cell.bank.get? var ch = none ∧ changed? = none) ∨
        ∃ place value processor, cell.bank.get? var ch = some place ∧
          source.convert place.type = .ok value ∧
          processor = (if notify then Processor.notify cell.processor var
            (cell.bank.set var ch value) else cell.processor) ∧
          changed? = some ⟨processor, cell.bank.set var ch value⟩ := by
  unfold write
  rw [map_eq_ok]
  constructor
  · rintro ⟨stored?, assigned, rfl⟩
    rcases Bank.assign_eq_ok.mp assigned with
      ⟨absent, rfl⟩ | ⟨place, value, present, converted, rfl⟩
    · exact .inl ⟨absent, rfl⟩
    · exact .inr ⟨place, value, _, present, converted, rfl, rfl⟩
  · rintro (⟨absent, rfl⟩ | ⟨place, value, processor, present, converted, rfl, rfl⟩)
    · exact ⟨none, Bank.assign_eq_ok.mpr (.inl ⟨absent, rfl⟩), rfl⟩
    · exact ⟨_, Bank.assign_eq_ok.mpr (.inr ⟨place, value, present, converted, rfl⟩), rfl⟩

theorem Cell.exists_write_of_convert [Processor P] {cell : Cell P} {var ch : Nat}
    {source place held : Value} (present : cell.bank.get? var ch = some place)
    (converted : source.convert place.type = .ok held) (notify : Bool) :
    ∃ changed, cell.write notify var ch source = .ok (some changed) :=
  ⟨_, Cell.write_eq_ok.mpr (.inr ⟨place, held, _, present, converted, rfl, rfl⟩)⟩

/-! ## Places -/

namespace Store

/-- The value in one channel of one native variable. -/
def place? (store : Store P) (terminal : Terminal) (ch : Nat) : Option Value :=
  (store.bank? terminal.slot).bind fun bank => bank.get? terminal.var ch

theorem value?_cons (store : Store P) (terminal : Terminal) (rest : List Terminal) (ch : Nat) :
    store.value? (terminal :: rest) ch = store.place? terminal ch := by
  simp only [value?, channels, place?, Bank.get?]
  cases store.bank? terminal.slot with
  | none => rfl
  | some bank =>
      dsimp only [Option.bind_some]
      cases bank.vars[terminal.var]? <;> simp

/-- The channels of a variable are those in which there is a value. -/
theorem lt_channelCount_iff (store : Store P) (terminals : List Terminal) (ch : Nat) :
    ch < store.channelCount terminals ↔ (store.value? terminals ch).isSome = true := by
  simp only [value?, channelCount, isSome_getElem?]

theorem place?_eq (store : Store P) (terminal : Terminal) (ch : Nat) :
    store.place? terminal ch =
      store[terminal.slot]?.bind fun cell => cell.bank.get? terminal.var ch := by
  rw [place?, bank?, Option.bind_map]
  rfl

theorem place?_congr {left right : Store P} {terminal : Terminal}
    (same : left[terminal.slot]? = right[terminal.slot]?) (ch : Nat) :
    left.place? terminal ch = right.place? terminal ch := by
  rw [place?_eq, place?_eq, same]

variable [Processor P]

/-- An assignment changes one place, which held a value before, and keeps its type. -/
theorem place?_assign {store : Store P} {terminal : Terminal} {cell changed : Cell P}
    {notify : Bool} {ch : Nat} {source : Value} (found : store[terminal.slot]? = some cell)
    (stored : cell.write notify terminal.var ch source = .ok (some changed)) :
    ∃ place held, store.place? terminal ch = some place ∧
      source.convert place.type = .ok held ∧ ∀ other channel,
        Store.place? (store.set terminal.slot changed) other channel =
          if other = terminal ∧ channel = ch then some held else store.place? other channel := by
  rcases Cell.write_eq_ok.mp stored with
    ⟨-, absent⟩ | ⟨place, held, processor, present, converted, -, isChanged⟩
  · cases absent
  cases isChanged
  refine ⟨place, held, by rw [place?_eq, found]; exact present, converted, ?_⟩
  intro other channel
  rw [place?_eq, place?_eq]
  by_cases sameSlot : terminal.slot = other.slot
  · rw [← sameSlot, List.getElem?_set_self (List.getElem?_eq_some_iff.mp found).1, found,
      Option.bind_some, Option.bind_some, Bank.get?_set]
    by_cases sameVar : terminal.var = other.var
    · have same : other = terminal := by
        cases other
        cases terminal
        simp only [Terminal.mk.injEq]
        exact ⟨sameSlot.symm, sameVar.symm⟩
      subst same
      by_cases sameChannel : ch = channel
      · subst sameChannel
        simp [present]
      · simp [sameChannel, Ne.symm sameChannel]
    · have different : other ≠ terminal := fun same => sameVar (by rw [same])
      simp [sameVar, different]
  · have different : other ≠ terminal := fun same => sameSlot (by rw [same])
    rw [List.getElem?_set_ne sameSlot, if_neg (by simp [different])]

variable {reached : Terminal → Prop} {start after : Store P}

theorem Written.place?_type (written : Written reached start after) (terminal : Terminal)
    (ch : Nat) :
    (after.place? terminal ch).map Value.type = (start.place? terminal ch).map Value.type := by
  induction written with
  | refl => rfl
  | assign before allowed found stored inductionHypothesis =>
      rw [← inductionHypothesis]
      obtain ⟨place, held, present, converted, other⟩ := place?_assign found stored
      rw [other]
      split
      · rename_i same
        obtain ⟨rfl, rfl⟩ := same
        rw [present, Option.map_some, Option.map_some, Value.type_of_convert converted]
      · rfl

theorem Written.place?_unchanged (written : Written reached start after) {terminal : Terminal}
    (outside : ¬ reached terminal) (ch : Nat) :
    after.place? terminal ch = start.place? terminal ch := by
  induction written with
  | refl => rfl
  | assign before allowed found stored inductionHypothesis =>
      obtain ⟨place, held, present, converted, other⟩ := place?_assign found stored
      rw [other, if_neg, inductionHypothesis]
      rintro ⟨rfl, -⟩
      exact outside allowed

/-! ## Writes -/

variable {store : Store P} {notify : Bool} {ch : Nat} {source : Value}
  {terminals : List Terminal} {terminal : Terminal}

theorem place?_write_channel (notify : Bool) (source : Value) (terminals : List Terminal)
    (store : Store P) (terminal : Terminal) {channel : Nat} (different : channel ≠ ch) :
    (write notify ch source terminals store).1.place? terminal channel =
      store.place? terminal channel := by
  fun_induction write notify ch source terminals store with
  | case1 store => rfl
  | case2 head rest store absent inductionHypothesis => exact inductionHypothesis
  | case3 head rest store cell found fault refused => rfl
  | case4 head rest store cell found noChannel inductionHypothesis => exact inductionHypothesis
  | case5 head rest store cell found changed stored written outcome result inductionHypothesis =>
      rw [result] at inductionHypothesis
      obtain ⟨place, held, present, converted, other⟩ := place?_assign found stored
      rw [inductionHypothesis, other, if_neg fun same => different same.2]

section

variable {head : Terminal} {rest : List Terminal} {place held : Value} {fault : ValueError}

theorem write_cons_of_absent (absent : store.place? head ch = none) :
    write notify ch source (head :: rest) store = write notify ch source rest store := by
  rw [place?_eq] at absent
  rw [write]
  cases found : store[head.slot]? with
  | none => rfl
  | some cell =>
      rw [found, Option.bind_some] at absent
      have skipped : cell.write notify head.var ch source = .ok none :=
        Cell.write_eq_ok.mpr (.inl ⟨absent, rfl⟩)
      simp only [skipped]

/-- A write that meets no place does nothing. -/
theorem write_of_absent (notify : Bool) {terminals : List Terminal}
    (absent : ∀ terminal ∈ terminals, store.place? terminal ch = none) :
    write notify ch source terminals store = (store, .ok false) := by
  induction terminals with
  | nil => rfl
  | cons terminal others inductionHypothesis =>
      rw [write_cons_of_absent (absent terminal List.mem_cons_self)]
      exact inductionHypothesis fun other member =>
        absent other (List.mem_cons_of_mem terminal member)

theorem write_cons_of_refused (present : store.place? head ch = some place)
    (refused : source.convert place.type = .error fault) :
    write notify ch source (head :: rest) store = (store, .error fault) := by
  rw [place?_eq] at present
  obtain ⟨cell, found, inCell⟩ := Option.bind_eq_some_iff.mp present
  have stopped : cell.write notify head.var ch source = .error fault := by
    rw [Cell.write, Bank.assign, inCell]
    simp only [Value.assign_eq_convert, refused]
    rfl
  rw [write, found]
  simp only [stopped]

/-- Where the first place takes a value, it holds it, and the write goes on from there. -/
theorem write_cons_of_stored (notify : Bool) (rest : List Terminal)
    (present : store.place? head ch = some place)
    (converted : source.convert place.type = .ok held) :
    ∃ next : Store P, (∀ other channel, next.place? other channel =
        if other = head ∧ channel = ch then some held else store.place? other channel) ∧
      write notify ch source (head :: rest) store =
        ((write notify ch source rest next).1,
          (write notify ch source rest next).2.map fun _ => true) := by
  have inStore := present
  rw [place?_eq] at inStore
  obtain ⟨cell, found, inCell⟩ := Option.bind_eq_some_iff.mp inStore
  obtain ⟨changed, stored⟩ := Cell.exists_write_of_convert inCell converted notify
  obtain ⟨old, new, oldThere, isNew, others⟩ := place?_assign found stored
  cases present.symm.trans oldThere
  cases converted.symm.trans isNew
  refine ⟨store.set head.slot changed, others, ?_⟩
  rw [write, found]
  simp only [stored]

end

/-- A completed write has converted its value to the type of every place that it
reached. -/
theorem place?_write {wrote : Bool}
    (completed : write notify ch source terminals store = (after, .ok wrote))
    (member : terminal ∈ terminals) {place : Value}
    (present : store.place? terminal ch = some place) :
    ∃ held, after.place? terminal ch = some held ∧ source.convert place.type = .ok held := by
  induction terminals generalizing store wrote place with
  | nil => exact absurd member List.not_mem_nil
  | cons head rest inductionHypothesis =>
      cases first : store.place? head ch with
      | none =>
          rw [write_cons_of_absent first] at completed
          rcases List.mem_cons.mp member with rfl | inRest
          · cases present.symm.trans first
          · exact inductionHypothesis completed inRest present
      | some old =>
          cases converted : source.convert old.type with
          | error fault =>
              rw [write_cons_of_refused first converted] at completed
              cases completed
          | ok held =>
              obtain ⟨next, places, isWrite⟩ := write_cons_of_stored notify rest first converted
              have both := isWrite.symm.trans completed
              obtain ⟨wroteRest, restDone, -⟩ := map_eq_ok.mp (congrArg Prod.snd both)
              obtain rfl : (write notify ch source rest next).1 = after := congrArg Prod.fst both
              -- a further write finds a place of the same type
              obtain ⟨value, nextPresent, sameType⟩ :
                  ∃ value, next.place? terminal ch = some value ∧ value.type = place.type := by
                rw [places]
                by_cases here : terminal = head
                · subst here
                  cases present.symm.trans first
                  exact ⟨held, if_pos ⟨rfl, rfl⟩, Value.type_of_convert converted⟩
                · exact ⟨place, (if_neg fun same => here same.1).trans present, rfl⟩
              by_cases again : terminal ∈ rest
              · rw [← sameType]
                exact inductionHypothesis (Prod.ext rfl restDone) again nextPresent
              · rcases List.mem_cons.mp member with rfl | inRest
                · cases present.symm.trans first
                  refine ⟨held, ?_, converted⟩
                  rw [(written_write notify ch source rest next).place?_unchanged again, places,
                    if_pos ⟨rfl, rfl⟩]
                · exact absurd inRest again

/-- A value that is written where it is already stays there, whatever else the write meets. -/
theorem place?_write_same (notify : Bool) (terminals : List Terminal)
    (there : store.place? terminal ch = some source) :
    (write notify ch source terminals store).1.place? terminal ch = some source := by
  induction terminals generalizing store with
  | nil => exact there
  | cons head rest inductionHypothesis =>
      cases first : store.place? head ch with
      | none =>
          rw [write_cons_of_absent first]
          exact inductionHypothesis there
      | some old =>
          cases converted : source.convert old.type with
          | error fault =>
              rw [write_cons_of_refused first converted]
              exact there
          | ok held =>
              obtain ⟨next, places, isWrite⟩ := write_cons_of_stored notify rest first converted
              rw [isWrite]
              refine inductionHypothesis ?_
              rw [places]
              split
              · rename_i same
                obtain ⟨rfl, -⟩ := same
                cases there.symm.trans first
                rw [Value.convert_self] at converted
                exact congrArg some (Except.ok.inj converted).symm
              · exact there

/-! ## Several channels -/

theorem place?_writeChannels_outside (terminals : List Terminal) (values : List Value)
    (store : Store P) (terminal : Terminal) {channel : Nat}
    (outside : channel < ch ∨ ch + values.length ≤ channel) :
    (writeChannels terminals ch values store).1.place? terminal channel =
      store.place? terminal channel := by
  induction values generalizing ch store with
  | nil => rfl
  | cons value rest inductionHypothesis =>
      rw [List.length_cons] at outside
      have different : channel ≠ ch := by omega
      have restOutside : channel < ch + 1 ∨ ch + 1 + rest.length ≤ channel := by omega
      have first := place?_write_channel false value terminals store terminal different
      rw [writeChannels]
      split <;> rename_i result <;> rw [result] at first
      · exact first
      · rw [inductionHypothesis _ restOutside, first]

/-- Completed writes have converted every value to the type of every place that is
there for it. -/
theorem place?_writeChannels {values : List Value}
    (completed : writeChannels terminals ch values store = (after, .ok ()))
    (member : terminal ∈ terminals) {offset : Nat} {value place : Value}
    (given : values[offset]? = some value)
    (present : store.place? terminal (ch + offset) = some place) :
    ∃ held, after.place? terminal (ch + offset) = some held ∧
      value.convert place.type = .ok held := by
  induction values generalizing ch store offset with
  | nil => cases given
  | cons first rest inductionHypothesis =>
      rw [writeChannels] at completed
      cases result : write false ch first terminals store with
      | mk written outcome =>
          cases outcome with
          | error fault =>
              rw [result] at completed
              cases completed
          | ok wrote =>
              rw [result] at completed
              cases offset with
              | zero =>
                  obtain rfl : first = value := Option.some.inj given
                  obtain ⟨held, heldThere, converted⟩ := place?_write result member present
                  have untouched := place?_writeChannels_outside terminals rest written terminal
                    (.inl (Nat.lt_succ_self ch))
                  simp only [completed] at untouched
                  exact ⟨held, untouched.trans heldThere, converted⟩
              | succ offset =>
                  have different : ch + (offset + 1) ≠ ch := by omega
                  have untouched :=
                    place?_write_channel false first terminals store terminal different
                  rw [result] at untouched
                  have address : ch + (offset + 1) = ch + 1 + offset := by omega
                  rw [address] at present untouched ⊢
                  exact inductionHypothesis completed given (untouched.trans present)

end Store

end SignalNet
