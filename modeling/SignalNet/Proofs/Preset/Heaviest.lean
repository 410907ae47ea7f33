import SignalNet.Native.Builtin
import SignalNet.Proofs.Number.Ordering
import SignalNet.Proofs.Preset.Alignment

/-!
Contract: a field that is not a number takes the contribution of the heaviest preset.

Text and switches cannot be summed, so one of the bodies decides: of those with the largest
weight, the last one. It decides whether it mentions the channel or not; a body that does not
contributes the value that is there. The weights are numbers that may be compared, so no NaN.

Owns: the last entry of maximal weight (`LastMaximal`), that the running choice of a blend is it
(`lastMaximal_heaviest`), and what such a field does in any store (`Field.apply_heaviest`).
-/

set_option autoImplicit false

namespace SignalNet

variable {P : Type}

namespace Blend

/-! ## The last entry of maximal weight -/

section

variable {α β : Type}

/-- No entry has a larger weight than the chosen one, and all that come after it have a smaller
one. -/
def LastMaximal (weight : α → Float) (entries : List α) (chosen : α) : Prop :=
  ∃ earlier later, entries = earlier ++ chosen :: later ∧
    (∀ other ∈ entries, weight other ≤ weight chosen) ∧
      ∀ other ∈ later, ¬ weight chosen ≤ weight other

theorem LastMaximal.mem {weight : α → Float} {entries : List α} {chosen : α}
    (maximal : LastMaximal weight entries chosen) : chosen ∈ entries := by
  obtain ⟨earlier, later, rfl, -, -⟩ := maximal
  exact List.mem_append_right _ List.mem_cons_self

theorem LastMaximal.singleton {weight : α → Float} {entry : α}
    (number : (weight entry).isNaN = false) : LastMaximal weight [entry] entry := by
  refine ⟨[], [], rfl, fun other member => ?_, fun other member => ?_⟩
  · cases List.mem_singleton.mp member
    exact (Number.le_total_of_not_isNaN number number).elim id id
  · cases member

/-- A further entry takes over if it is at least as heavy. -/
theorem LastMaximal.append {weight : α → Float} {entries : List α} {best next : α}
    (maximal : LastMaximal weight entries best)
    (numbers : ∀ entry ∈ entries ++ [next], (weight entry).isNaN = false) :
    LastMaximal weight (entries ++ [next])
      (if weight best ≤ weight next then next else best) := by
  have nextNumber := numbers next (List.mem_append_right _ List.mem_cons_self)
  have bestNumber := numbers best (List.mem_append_left _ maximal.mem)
  obtain ⟨earlier, later, split, largest, smaller⟩ := maximal
  split
  · rename_i overtaken
    refine ⟨entries, [], rfl, fun other member => ?_, fun other member => by cases member⟩
    rcases List.mem_append.mp member with before | last
    · exact Number.le_trans_of_not_isNaN (numbers other member) bestNumber nextNumber
        (largest other before) overtaken
    · cases List.mem_singleton.mp last
      exact (Number.le_total_of_not_isNaN nextNumber nextNumber).elim id id
  · rename_i kept
    refine ⟨earlier, later ++ [next], ?_, fun other member => ?_, fun other member => ?_⟩
    · rw [split, List.append_assoc, List.cons_append]
    · rcases List.mem_append.mp member with before | last
      · exact largest other before
      · cases List.mem_singleton.mp last
        exact (Number.le_total_of_not_isNaN nextNumber bestNumber).resolve_right kept
    · rcases List.mem_append.mp member with before | last
      · exact smaller other before
      · cases List.mem_singleton.mp last
        exact kept

/-- Where results are made entry by entry and keep the weights, the last maximal result is made
from the last maximal entry. -/
theorem LastMaximal.source {made : α → β → Prop} {weight : α → Float} {resultWeight : β → Float}
    {entries : List α} {results : List β} (related : List.Forall₂ made entries results)
    (sameWeight : ∀ entry result, made entry result → resultWeight result = weight entry)
    {chosen : β} (maximal : LastMaximal resultWeight results chosen) :
    ∃ entry, made entry chosen ∧ LastMaximal weight entries entry := by
  obtain ⟨earlier, later, rfl, largest, smaller⟩ := maximal
  obtain ⟨entry, rest, here, restRelated, behind⟩ :=
    List.forall₂_cons_right_iff.mp (List.forall₂_drop_append _ _ _ related)
  refine ⟨entry, here, entries.take earlier.length, rest, ?_, fun other member => ?_,
    fun other member => ?_⟩
  · rw [← behind, List.take_append_drop]
  · obtain ⟨result, listed, made⟩ := exists_of_mem_forall₂ related.flip member
    rw [← sameWeight other result made, ← sameWeight entry chosen here]
    exact largest result listed
  · obtain ⟨result, listed, made⟩ := exists_of_mem_forall₂ restRelated.flip member
    rw [← sameWeight other result made, ← sameWeight entry chosen here]
    exact smaller result listed

end

/-! ## The running choice -/

/-- The choice so far and the entries to come. -/
theorem lastMaximal_foldl {done rest : List Contribution} {best : Contribution}
    (numbers : ∀ part ∈ done ++ rest, part.weight.isNaN = false)
    (maximal : LastMaximal (·.weight) done best) :
    ∃ chosen, rest.foldl (fun best part =>
        match best with
        | none => some part
        | some other => if other.weight ≤ part.weight then some part else some other)
        (some best) = some chosen ∧
      LastMaximal (·.weight) (done ++ rest) chosen := by
  induction rest generalizing done best with
  | nil => exact ⟨best, rfl, (List.append_nil done).symm ▸ maximal⟩
  | cons next rest inductionHypothesis =>
      have regrouped : done ++ next :: rest = done ++ [next] ++ rest := by
        rw [List.append_assoc, List.singleton_append]
      rw [regrouped] at numbers ⊢
      have step := maximal.append fun part member =>
        numbers part (List.mem_append_left _ member)
      obtain ⟨chosen, folded, isMaximal⟩ := inductionHypothesis numbers step
      refine ⟨chosen, ?_, isMaximal⟩
      rw [List.foldl_cons, ← folded]
      congr 1
      exact (apply_ite some _ _ _).symm

theorem lastMaximal_heaviest {contributions : List Contribution}
    (nonempty : contributions ≠ [])
    (numbers : ∀ part ∈ contributions, part.weight.isNaN = false) :
    ∃ chosen, heaviest contributions = some chosen ∧
      LastMaximal (·.weight) contributions chosen := by
  cases contributions with
  | nil => exact absurd rfl nonempty
  | cons first rest =>
      have single : LastMaximal (·.weight) [first] first :=
        .singleton (numbers first List.mem_cons_self)
      rw [← List.singleton_append] at numbers ⊢
      exact lastMaximal_foldl numbers single

/-! ## Fields that are not numbers -/

namespace Field

/-- What a body contributes: its literal as a value of the type, or the live value if it does not
mention the channel. -/
def Contributes (field : Field) (store : Store P) (body : Option Assignments × Float)
    (value : Value) : Prop :=
  match literal? body.1 field.var field.channel with
  | some literal => literal.toValue field.type = .ok value
  | none => value = field.live store

/-- All literals for the channel are values of the type. -/
def Readable (field : Field) : Prop :=
  ∀ body ∈ field.bodies, ∀ literal, literal? body.1 field.var field.channel = some literal →
    ∃ value, literal.toValue field.type = .ok value

theorem contributes_of_contribution {field : Field} {store : Store P}
    {body : Option Assignments × Float} {part : Contribution}
    (made : contribution field.type field.var field.channel (field.live store) body = .ok part) :
    field.Contributes store body part.value := by
  unfold contribution at made
  unfold Contributes
  cases given : literal? body.1 field.var field.channel with
  | none =>
      rw [given] at made
      cases made
      rfl
  | some literal =>
      rw [given] at made
      obtain ⟨value, converted, rfl⟩ := map_eq_ok.mp made
      exact converted

theorem exists_contribution {field : Field} (readable : field.Readable) (store : Store P)
    {body : Option Assignments × Float} (listed : body ∈ field.bodies) :
    ∃ part, contribution field.type field.var field.channel (field.live store) body = .ok part := by
  unfold contribution
  cases given : literal? body.1 field.var field.channel with
  | none => exact ⟨_, rfl⟩
  | some literal =>
      obtain ⟨value, converted⟩ := readable body listed literal given
      exact ⟨⟨true, body.2, value⟩, map_eq_ok.mpr ⟨value, converted, rfl⟩⟩

theorem type_live {field : Field} {store : Store P}
    (meets : store.MeetsType field.terminals field.channel field.type) :
    (field.live store).type = field.type := by
  unfold live
  cases found : store.value? field.terminals field.channel with
  | none => exact Value.type_zero field.type
  | some value =>
      cases leads : field.terminals with
      | nil => simp [leads, Store.value?, Store.channels] at found
      | cons terminal rest =>
          rw [leads, Store.value?_cons] at found
          exact meets terminal (leads ▸ List.mem_cons_self) value found

theorem Contributes.type_eq {field : Field} {store : Store P}
    {body : Option Assignments × Float} {value : Value}
    (meets : store.MeetsType field.terminals field.channel field.type)
    (contributes : field.Contributes store body value) : value.type = field.type := by
  unfold Contributes at contributes
  split at contributes
  · exact Literal.type_of_toValue contributes
  · rw [contributes, type_live meets]

/-- Where a field that is no number is mentioned and readable, it blends to the contribution of
the last body of maximal weight. -/
theorem blended_heaviest {field : Field} (plain : field.type.isNumeric = false)
    (numbers : ∀ body ∈ field.bodies, body.2.isNaN = false) (mentioned : field.mentioned = true)
    (readable : field.Readable) (store : Store P) :
    ∃ chosen value, LastMaximal (·.2) field.bodies chosen ∧
      field.Contributes store chosen value ∧ field.blended store = .ok (some value) := by
  obtain ⟨contributions, collected, related⟩ := exists_mapM_eq_ok fun body listed =>
    (exists_contribution readable store listed).imp fun _ made => ⟨made, made⟩
  have anyMentioned : contributions.any (·.mentioned) = true :=
    (any_mentioned collected).trans mentioned
  have nonempty : contributions ≠ [] := by
    rintro rfl
    cases anyMentioned
  obtain ⟨part, isHeaviest, maximal⟩ := lastMaximal_heaviest nonempty fun part listed => by
    obtain ⟨body, isBody, made⟩ := exists_of_mem_forall₂ related listed
    rw [weight_of_contribution made, numbers body isBody]
  obtain ⟨chosen, made, isLast⟩ :=
    maximal.source related fun body part made => weight_of_contribution made
  refine ⟨chosen, part.value, isLast, contributes_of_contribution made, ?_⟩
  refine bind_eq_ok.mpr ⟨contributions, collected, ?_⟩
  rw [combine, if_pos anyMentioned, plain, isHeaviest]
  rfl

variable [Processor P]

/-- Of a variable of text or of switches, a channel that no body mentions is left alone. One that
is mentioned, with literals that convert, is written once, with the contribution of the last body
among those of maximal weight, whether that body mentions the channel or not. Places of the type
of the variable hold it from then on. -/
theorem apply_heaviest (field : Field) (store : Store P) (plain : field.type.isNumeric = false)
    (numbers : ∀ body ∈ field.bodies, body.2.isNaN = false) :
    (field.mentioned = false → field.apply store = (store, none)) ∧
      (field.mentioned = true → field.Readable →
        ∃ chosen value, LastMaximal (·.2) field.bodies chosen ∧
          field.Contributes store chosen value ∧
            field.apply store = (match store.write true field.channel value field.terminals with
              | (written, .ok _) => (written, none)
              | (written, .error fault) => (written, some fault)) ∧
            (field.Fits store → store.MeetsType field.terminals field.channel field.type →
              (field.apply store).2 = none ∧ ∀ terminal ∈ field.terminals,
                (field.apply store).1.place? terminal field.channel = some value)) := by
  constructor
  · intro unmentioned
    rw [apply_eq, blended_of_not_mentioned unmentioned]
  · intro mentioned readable
    obtain ⟨chosen, value, maximal, contributes, blended⟩ :=
      blended_heaviest plain numbers mentioned readable store
    have applied := field.apply_eq store
    rw [blended] at applied
    refine ⟨chosen, value, maximal, contributes, applied, fun fits meets => ?_⟩
    have sameType := contributes.type_eq meets
    have converted : value.convert field.type = .ok value := by
      rw [Value.convert, if_pos sameType]
    rcases Store.write_cases meets fits.present fits.nonempty true value with
      ⟨held, after, wrote, alsoConverted, written, stored⟩ | ⟨fault, refusal, refused, -⟩
    · cases converted.symm.trans alsoConverted
      simp only [written] at applied
      rw [applied]
      exact ⟨rfl, stored⟩
    · cases converted.symm.trans refused

/-- A name that two bodies of the same weight mention, and a lighter one does not. -/
def named : Field :=
  let body := fun text => some (Assignments.ofList [("name", .string text)])
  ⟨"voice", "name", .string, [⟨0, 0⟩], [(body "dark", 0.5), (body "bright", 0.5), (none, 0.25)], 0⟩

/-- A voice with a name. -/
def voice : Store Builtin :=
  [⟨.number 0 0, ⟨[⟨"name", .string, .empty, [.string "plain"]⟩]⟩⟩]

theorem fits_named :
    named.Fits voice ∧ voice.MeetsType named.terminals named.channel named.type := by
  have there : ∀ terminal ∈ named.terminals, voice.place? terminal 0 = some (.string "plain") :=
    List.forall_mem_singleton.mpr rfl
  have meets : voice.MeetsType named.terminals named.channel named.type :=
    fun terminal listed place found => by
      cases (there terminal listed).symm.trans found
      rfl
  exact ⟨⟨List.cons_ne_nil _ _, fun terminal listed => ⟨_, there terminal listed⟩, _, meets⟩, meets⟩

/-- The later of the two decides. -/
theorem apply_heaviest_named :
    named.mentioned = true ∧ named.Readable ∧ (named.apply voice).2 = none ∧
      ∃ chosen value, LastMaximal (·.2) named.bodies chosen ∧
        named.Contributes voice chosen value ∧
          (named.apply voice).1.place? ⟨0, 0⟩ 0 = some value := by
  have readable : named.Readable := by
    have bodies : ∀ body ∈ named.bodies, ∀ literal,
        literal? body.1 named.var named.channel = some literal →
          literal = .string "dark" ∨ literal = .string "bright" := by
      simp only [named, List.forall_mem_cons]
      refine ⟨fun _ given => .inl ?_, fun _ given => .inr ?_, nofun, nofun⟩
      · exact (Option.some.inj given).symm
      · exact (Option.some.inj given).symm
    intro body listed literal given
    rcases bodies body listed literal given with rfl | rfl
    · exact ⟨_, rfl⟩
    · exact ⟨_, rfl⟩
  obtain ⟨chosen, value, maximal, contributes, -, taken⟩ :=
    (apply_heaviest named voice rfl (by decide)).2 rfl readable
  obtain ⟨faultless, held⟩ := taken fits_named.1 fits_named.2
  exact ⟨rfl, readable, faultless, chosen, value, maximal, contributes,
    held _ List.mem_cons_self⟩

example : (named.apply voice).1.place? ⟨0, 0⟩ 0 = some (.string "bright") := rfl

end Field

end Blend

end SignalNet
