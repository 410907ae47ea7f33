import SignalNet.Preset.Apply
import SignalNet.Proofs.Network.Access

/-!
Contract: a field of a preset does what its own blend asks for.

A field is one channel of a variable, to be blended from the bodies that presets resolve to. Bodies
that do not mention the channel leave it alone. Otherwise they blend to a value, or to none that
the type of the variable has. The places behind the variable are of one type, so all of them
take the value or none does.

Owns: fields, the conditions under which all places of a field are alike (`Field.Fits`), and
what a field then does (`Field.Fits.obeys`).
-/

set_option autoImplicit false

namespace SignalNet

variable {P : Type}

/-! ## Writes to alike places -/

/-- Where all places of a write are there and of one type, they take the value, or none does. -/
theorem Store.write_cases [Processor P] {store : Store P} {terminals : List Terminal} {ch : Nat}
    {type : ValueType} (meets : store.MeetsType terminals ch type)
    (present : ∀ terminal ∈ terminals, ∃ place, store.place? terminal ch = some place)
    (nonempty : terminals ≠ []) (notify : Bool) (source : Value) :
    (∃ held after wrote, source.convert type = .ok held ∧
        store.write notify ch source terminals = (after, .ok wrote) ∧
          ∀ terminal ∈ terminals, after.place? terminal ch = some held) ∨
      ∃ fault refusal, source.convert type = .error refusal ∧
        store.write notify ch source terminals = (store, .error fault) := by
  rcases result : store.write notify ch source terminals with ⟨after, fault | wrote⟩
  · have untouched : (store.write notify ch source terminals).1 = store :=
      write_unchanged meets (by rw [result]; nofun)
    rw [result] at untouched
    obtain rfl : after = store := untouched
    cases converted : source.convert type with
    | error refusal => exact .inr ⟨fault, refusal, rfl, rfl⟩
    | ok held =>
        obtain ⟨wrote, completed⟩ := write_eq_ok_of_converted notify meets converted
        rw [result] at completed
        cases completed
  · obtain ⟨first, isFirst⟩ := List.exists_mem_of_ne_nil _ nonempty
    obtain ⟨held, converted, stored⟩ := exists_place?_of_taken meets present result isFirst
    exact .inl ⟨held, after, wrote, converted, rfl, stored⟩

namespace Blend

/-! ## Fields -/

/-- One channel of a variable of a proc, to be blended from some bodies. -/
structure Field where
  proc : String
  var : String
  type : ValueType
  terminals : List Terminal
  bodies : WeightedBodies
  channel : Nat

namespace Field

/-- One of the bodies has a literal for the channel. -/
def mentioned (field : Field) : Bool :=
  field.bodies.any fun body => (literal? body.1 field.var field.channel).isSome

/-- The value of a field before it is blended. -/
def live (field : Field) (store : Store P) : Value :=
  (store.value? field.terminals field.channel).getD (Value.zero field.type)

/-- What the bodies blend to, over the value that is there. -/
def blended (field : Field) (store : Store P) : Except ValueError (Option Value) :=
  blend field.type field.var field.channel (field.live store) field.bodies

/-- The bodies blend to a value that all places of the field can hold, as some value of their
type. -/
def Converts (field : Field) (store : Store P) (held : Value) : Prop :=
  ∃ value, field.blended store = .ok (some value) ∧ ∀ terminal ∈ field.terminals,
    ∀ place, store.place? terminal field.channel = some place →
      value.convert place.type = .ok held

def apply [Processor P] (field : Field) (store : Store P) : Store P × Option ValueError :=
  applyChannel field.type field.var field.terminals field.bodies store field.channel

def failure (field : Field) (fault : ValueError) : PresetFailure :=
  ⟨field.proc, field.var, .value fault⟩

end Field

/-! ## What bodies blend to -/

theorem isSome_heaviest {contributions : List Contribution} (nonempty : contributions ≠ []) :
    (heaviest contributions).isSome = true := by
  rw [← List.dropLast_append_getLast nonempty, heaviest, List.foldl_append, List.foldl_cons,
    List.foldl_nil]
  split
  · rfl
  · split <;> rfl

theorem contribution_mentioned {type : ValueType} {label : String} {ch : Nat} {live : Value}
    {body : Option Assignments × Float} {part : Contribution}
    (made : contribution type label ch live body = .ok part) :
    part.mentioned = (literal? body.1 label ch).isSome := by
  unfold contribution at made
  cases given : literal? body.1 label ch with
  | none =>
      rw [given] at made
      cases made
      rfl
  | some literal =>
      rw [given] at made
      obtain ⟨value, -, rfl⟩ := map_eq_ok.mp made
      rfl

theorem any_mentioned {type : ValueType} {label : String} {ch : Nat} {live : Value}
    {bodies : WeightedBodies} {contributions : List Contribution}
    (collected : bodies.mapM (contribution type label ch live) = .ok contributions) :
    contributions.any (·.mentioned) =
      bodies.any fun body => (literal? body.1 label ch).isSome := by
  have each := mapM_eq_ok.mp collected
  clear collected
  induction each with
  | nil => rfl
  | cons made _ inductionHypothesis =>
      rw [List.any_cons, List.any_cons, inductionHypothesis, contribution_mentioned made]

/-- Bodies that mention a channel blend to a value, if to anything. -/
theorem Field.isSome_of_blended {field : Field} {store : Store P} {value? : Option Value}
    (blended : field.blended store = .ok value?) (mentioned : field.mentioned = true) :
    value?.isSome = true := by
  obtain ⟨contributions, collected, combined⟩ := bind_eq_ok.mp blended
  have anyMentioned : contributions.any (·.mentioned) = true :=
    (any_mentioned collected).trans mentioned
  rw [combine, if_pos anyMentioned] at combined
  split at combined
  · obtain ⟨value, -, rfl⟩ := map_eq_ok.mp combined
    rfl
  · cases combined
    rw [Option.isSome_map]
    refine isSome_heaviest fun none => ?_
    rw [none] at anyMentioned
    cases anyMentioned

/-- Bodies that do not mention a channel blend to nothing. -/
theorem blend_of_unmentioned {label : String} {ch : Nat} {bodies : WeightedBodies}
    (unmentioned : ∀ body ∈ bodies, literal? body.1 label ch = none) (type : ValueType)
    (live : Value) : blend type label ch live bodies = .ok none := by
  have each : ∀ body ∈ bodies, ∃ part,
      contribution type label ch live body = .ok part ∧ True := by
    intro body member
    exact ⟨⟨false, body.2, live⟩, by rw [contribution, unmentioned body member], trivial⟩
  obtain ⟨contributions, collected, -⟩ := exists_mapM_eq_ok each
  have noneMentioned : contributions.any (·.mentioned) = false := by
    rw [any_mentioned collected, List.any_eq_false]
    intro body member
    simp [unmentioned body member]
  refine bind_eq_ok.mpr ⟨contributions, collected, ?_⟩
  rw [combine, noneMentioned]
  rfl

theorem Field.blended_of_not_mentioned {field : Field} (unmentioned : field.mentioned = false)
    (store : Store P) : field.blended store = .ok none := by
  rw [mentioned, List.any_eq_false] at unmentioned
  exact blend_of_unmentioned (fun body member => by simpa using unmentioned body member) _ _

/-! ## What a field does -/

/-- The places of a field are there, at least one of them, and of one type. -/
structure Field.Fits (field : Field) (store : Store P) : Prop where
  nonempty : field.terminals ≠ []
  present : ∀ terminal ∈ field.terminals,
    ∃ place, store.place? terminal field.channel = some place
  uniform : ∃ type, store.MeetsType field.terminals field.channel type

/-- From one store to the next, a field has done what its own blend asks for. -/
inductive Field.Obeys (field : Field) (before : Store P) :
    Store P → Option ValueError → Prop where
  | skipped (unmentioned : field.mentioned = false) : Obeys field before before none
  /-- The blend is held in all places of the field, and all other places are as before. -/
  | stored {after : Store P} {held : Value} (mentioned : field.mentioned = true)
      (converts : field.Converts before held)
      (everywhere : ∀ terminal ∈ field.terminals,
        after.place? terminal field.channel = some held)
      (frame : ∀ terminal ch, (terminal ∈ field.terminals → ch ≠ field.channel) →
        after.place? terminal ch = before.place? terminal ch) :
      Obeys field before after none
  | refused {fault : ValueError} (mentioned : field.mentioned = true)
      (never : ∀ held, ¬ field.Converts before held) :
      Obeys field before before (some fault)

/-- A field has no fault exactly if it is not mentioned or its blend converts. -/
theorem Field.Obeys.fault_eq_none {field : Field} {before after : Store P}
    {fault? : Option ValueError} (obeys : field.Obeys before after fault?) :
    fault? = none ↔ (field.mentioned = true → ∃ held, field.Converts before held) := by
  cases obeys with
  | skipped unmentioned =>
      refine iff_of_true rfl fun mentioned => ?_
      cases unmentioned.symm.trans mentioned
  | stored _ converts => exact iff_of_true rfl fun _ => ⟨_, converts⟩
  | refused mentioned never =>
      refine iff_of_false nofun fun each => ?_
      obtain ⟨held, converts⟩ := each mentioned
      exact never held converts

theorem Field.converts_iff {field : Field} {store : Store P} {type : ValueType}
    (fits : field.Fits store) (meets : store.MeetsType field.terminals field.channel type)
    {value held : Value} (blended : field.blended store = .ok (some value)) :
    field.Converts store held ↔ value.convert type = .ok held := by
  constructor
  · rintro ⟨other, alsoBlended, each⟩
    cases blended.symm.trans alsoBlended
    obtain ⟨first, isFirst⟩ := List.exists_mem_of_ne_nil _ fits.nonempty
    obtain ⟨place, there⟩ := fits.present first isFirst
    exact meets first isFirst place there ▸ each first isFirst place there
  · intro converted
    exact ⟨value, blended, fun terminal member place there =>
      (meets terminal member place there).symm ▸ converted⟩

variable [Processor P]

theorem Field.Fits.written {field : Field} {store after : Store P} (fits : field.Fits store)
    {reached : Terminal → Prop} (written : Store.Written reached store after) :
    field.Fits after := by
  have sameType := fun terminal => written.place?_type terminal field.channel
  refine ⟨fits.nonempty, fun terminal member => ?_, ?_⟩
  · obtain ⟨place, there⟩ := fits.present terminal member
    have someType := sameType terminal
    rw [there] at someType
    obtain ⟨held, heldThere, -⟩ := Option.map_eq_some_iff.mp someType
    exact ⟨held, heldThere⟩
  · obtain ⟨type, meets⟩ := fits.uniform
    refine ⟨type, fun terminal member place there => ?_⟩
    have someType := (sameType terminal).symm
    rw [there] at someType
    obtain ⟨before, beforeThere, same⟩ := Option.map_eq_some_iff.mp someType
    exact same.symm.trans (meets terminal member before beforeThere)

theorem Field.apply_eq (field : Field) (store : Store P) :
    field.apply store = match field.blended store with
      | .error fault => (store, some fault)
      | .ok none => (store, none)
      | .ok (some value) =>
          match store.write true field.channel value field.terminals with
          | (written, .ok _) => (written, none)
          | (written, .error fault) => (written, some fault) := rfl

/-- The cells after a blend that comes to a value are those after its write, as far as that got. -/
theorem Field.apply_fst_of_blended {field : Field} {store : Store P} {value : Value}
    (blended : field.blended store = .ok (some value)) :
    (field.apply store).1 = (store.write true field.channel value field.terminals).1 := by
  rw [apply_eq, blended]
  dsimp only
  split <;> rename_i written <;> rw [written]

/-- A field changes no other channel. -/
theorem Field.place?_apply_of_ne (field : Field) (store : Store P) (terminal : Terminal) {ch : Nat}
    (other : ch ≠ field.channel) :
    (field.apply store).1.place? terminal ch = store.place? terminal ch := by
  cases blended : field.blended store with
  | error fault => rw [apply_eq, blended]
  | ok value? =>
      cases value? with
      | none => rw [apply_eq, blended]
      | some value =>
          rw [apply_fst_of_blended blended]
          exact Store.place?_write_channel true value field.terminals store terminal other

theorem Field.value?_apply_of_ne (field : Field) (store : Store P) (terminals : List Terminal)
    {ch : Nat} (other : ch ≠ field.channel) :
    (field.apply store).1.value? terminals ch = store.value? terminals ch := by
  cases terminals with
  | nil => rfl
  | cons terminal rest =>
      rw [Store.value?_cons, Store.value?_cons, field.place?_apply_of_ne store terminal other]

theorem Field.Fits.obeys {field : Field} {store : Store P} (fits : field.Fits store) :
    field.Obeys store (field.apply store).1 (field.apply store).2 := by
  rw [apply_eq]
  cases mentioned : field.mentioned with
  | false =>
      rw [field.blended_of_not_mentioned mentioned store]
      exact .skipped mentioned
  | true =>
      cases blended : field.blended store with
      | error fault =>
          refine .refused mentioned fun held ⟨value, converted, _⟩ => ?_
          cases blended.symm.trans converted
      | ok value? =>
          obtain ⟨value, rfl⟩ := Option.isSome_iff_exists.mp (isSome_of_blended blended mentioned)
          obtain ⟨type, meets⟩ := fits.uniform
          rcases Store.write_cases meets fits.present fits.nonempty true value with
            ⟨held, after, wrote, converted, written, stored⟩ | ⟨fault, refusal, refused, written⟩
          · simp only [written]
            exact .stored mentioned ((converts_iff fits meets blended).mpr converted) stored
              fun terminal ch outside => Store.place?_write_outside written outside
          · simp only [written]
            refine .refused mentioned fun held converts => ?_
            cases refused.symm.trans ((converts_iff fits meets blended).mp converts)

end Blend

end SignalNet
