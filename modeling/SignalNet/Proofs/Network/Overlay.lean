import SignalNet.Proofs.Network.Settings

/-!
Contract: what is written over a proc once its class has made it.

Building goes from the inside outwards, and what a class made for a native proc stays where it is
while subnets around it write their defaults and arguments, and presets are applied that were asked
for at construction. These are all literals, and no literal stands for audio. So places that hold
audio keep it, and of all other places only those can change that a variable leads to which one of
the literals is for.

Owns: the relation between a store and what is written over it (`Store.Overlaid`), the variables
that a subnet fills (`Proc.Fills`) and that a construction preset mentions (`Proc.Mentions`), and
one lemma for every operation that writes literals.
-/

set_option autoImplicit false

namespace SignalNet

variable {P : Type}

/-! ## Audio -/

/-- Only audio converts to audio. -/
theorem Value.type_of_convert_audio {source held : Value}
    (converted : source.convert .audio = .ok held) : source.type = .audio := by
  unfold convert at converted
  split at converted
  · assumption
  · split at converted
    · cases converted
    · cases converted

/-- No literal stands for audio. -/
theorem Literal.type_ne_audio {literal : Literal} {type : ValueType} {value : Value}
    (converted : literal.toValue type = .ok value) : value.type ≠ .audio := by
  rw [type_of_toValue converted]
  rintro rfl
  cases literal with
  | bool b => cases converted
  | int n => cases converted
  | float x => cases converted
  | string text => cases converted
  | list items => cases converted

namespace Store

/-- From one store to the next, places outside of some variables are as they were, and places
that hold audio are as they were everywhere. -/
structure Overlaid (reached : Terminal → Prop) (before after : Store P) : Prop where
  outside : ∀ terminal, ¬ reached terminal → ∀ ch,
    after.place? terminal ch = before.place? terminal ch
  audio : ∀ terminal ch block, before.place? terminal ch = some (.audio block) →
    after.place? terminal ch = some (.audio block)

namespace Overlaid

variable {reached larger : Terminal → Prop} {before middle after : Store P}

theorem refl (reached : Terminal → Prop) (store : Store P) : Overlaid reached store store :=
  ⟨fun _ _ _ => rfl, fun _ _ _ there => there⟩

theorem trans (first : Overlaid reached before middle) (second : Overlaid reached middle after) :
    Overlaid reached before after where
  outside terminal unreached ch :=
    (second.outside terminal unreached ch).trans (first.outside terminal unreached ch)
  audio terminal ch block there :=
    second.audio terminal ch block (first.audio terminal ch block there)

theorem mono (overlaid : Overlaid reached before after)
    (included : ∀ terminal, reached terminal → larger terminal) :
    Overlaid larger before after where
  outside terminal unreached := overlaid.outside terminal fun isReached =>
    unreached (included terminal isReached)
  audio := overlaid.audio

end Overlaid

variable [Processor P]

theorem overlaid_set {store : Store P} {terminal : Terminal} {cell changed : Cell P}
    {notify : Bool} {ch : Nat} {value : Value} (plain : value.type ≠ .audio)
    (found : store[terminal.slot]? = some cell)
    (stored : cell.write notify terminal.var ch value = .ok (some changed)) :
    Overlaid (· = terminal) store (store.set terminal.slot changed) := by
  obtain ⟨place, held, present, converted, places⟩ := place?_assign found stored
  constructor
  · intro other unreached channel
    rw [places, if_neg fun same => unreached same.1]
  · intro other channel block there
    rw [places, if_neg ?_, there]
    rintro ⟨rfl, rfl⟩
    cases present.symm.trans there
    exact plain (Value.type_of_convert_audio converted)

theorem overlaid_write (notify : Bool) (ch : Nat) {value : Value} (plain : value.type ≠ .audio)
    (terminals : List Terminal) (store : Store P) :
    Overlaid (· ∈ terminals) store (write notify ch value terminals store).1 := by
  fun_induction write notify ch value terminals store with
  | case1 store => exact .refl _ _
  | case2 terminal rest store absent inductionHypothesis =>
      exact inductionHypothesis.mono fun _ member => List.mem_cons_of_mem _ member
  | case3 terminal rest store cell found fault refused => exact .refl _ _
  | case4 terminal rest store cell found noChannel inductionHypothesis =>
      exact inductionHypothesis.mono fun _ member => List.mem_cons_of_mem _ member
  | case5 terminal rest store cell found changed stored written outcome result
      inductionHypothesis =>
      rw [result] at inductionHypothesis
      refine ((overlaid_set plain found stored).mono ?_).trans (inductionHypothesis.mono ?_)
      · rintro _ rfl
        exact List.mem_cons_self
      · exact fun _ member => List.mem_cons_of_mem _ member

end Store

/-! ## Subnets -/

/-- A subnet fills a native variable if it has a variable that leads there and either an argument
for it or a default that its class itself declares. -/
def Proc.Fills (proc : Proc P) (spec : ProcSpec) (terminal : Terminal) : Prop :=
  proc.description.isSubnet = true ∧ ∃ var, terminal ∈ proc.terminals var ∧
    (((proc.declaration? var).bind (·.own?)).isSome = true ∨
      ∃ entry ∈ spec.arguments.entries, proc.variableIndex? entry.1 = some var)

namespace Build

open Store

theorem own?_of_mem_ownInitials {description : ClassDescription P} {item : Nat × Literal}
    (member : item ∈ ownInitials description) :
    (description.vars[item.1]?).bind (·.own?) = some item.2 := by
  rw [ownInitials_eq] at member
  obtain ⟨⟨declaration, var⟩, listed, isItem⟩ := List.mem_filterMap.mp member
  obtain ⟨literal, own, rfl⟩ := Option.map_eq_some_iff.mp isItem
  rw [List.mem_zipIdx_iff_getElem?.mp listed]
  exact own

variable [Processor P] {proc : Proc P} {store after : Store P}

theorem overlaid_writeLiteral {var : Nat} {literal : Literal} {channels : List Nat}
    (completed : writeLiteral proc var literal channels store = .ok after) :
    Overlaid (· ∈ proc.terminals var) store after := by
  fun_induction writeLiteral proc var literal channels store with
  | case1 store =>
      cases completed
      exact .refl _ _
  | case2 ch rest store missing inductionHypothesis => exact inductionHypothesis completed
  | case3 ch rest store item found type refused fault => cases completed
  | case4 ch rest store item found type refused value converted written fault result =>
      cases completed
  | case5 ch rest store item found type value converted written present result
      inductionHypothesis =>
      have first := overlaid_write false ch (Literal.type_ne_audio converted)
        (proc.terminals var) store
      rw [result] at first
      exact first.trans (inductionHypothesis completed)

/-- A new subnet writes to the variables that it fills. -/
theorem overlaid_writeSubnet {spec : ProcSpec} (isSubnet : proc.description.isSubnet = true)
    (completed : writeSubnet spec proc store = .ok after) :
    Overlaid (proc.Fills spec) store after := by
  obtain ⟨initialized, initials, arguments⟩ := bind_eq_ok.mp completed
  refine foldlM_keeps (foldlM_keeps (.refl _ store) ?_ initials) ?_ arguments
  · intro item member before next overlaid assigned
    refine overlaid.trans ((overlaid_writeLiteral assigned).mono fun terminal leads => ?_)
    refine ⟨isSubnet, item.1, leads, .inl ?_⟩
    rw [Proc.declaration?, own?_of_mem_ownInitials member]
    rfl
  · intro item member before next overlaid assigned
    cases found : proc.variableIndex? item.1 with
    | none =>
        simp only [found] at assigned
        cases assigned
    | some var =>
        simp only [found] at assigned
        exact overlaid.trans ((overlaid_writeLiteral assigned).mono fun terminal leads =>
          ⟨isSubnet, var, leads, .inr ⟨item, member, found⟩⟩)

end Build

/-! ## Construction presets -/

/-- The preset that a proc asks for at construction has a literal for a variable that leads to a
native one. -/
def Proc.Mentions (proc : Proc P) (spec : ProcSpec) (terminal : Terminal) : Prop :=
  ∃ label body, spec.preset = some label ∧ proc.description.preset? label = some body ∧
    proc.Named body.labels terminal

namespace Blend

open Store

/-- What one body blends to has the type of the variable. -/
theorem type_of_blend_single {type : ValueType} {label : String} {ch : Nat} {live value : Value}
    {body : Option Assignments × Float}
    (blended : blend type label ch live [body] = .ok (some value)) : value.type = type := by
  obtain ⟨contributions, collected, combined⟩ := bind_eq_ok.mp blended
  obtain ⟨part, made, rfl⟩ : ∃ part, contribution type label ch live body = .ok part ∧
      contributions = [part] := by
    obtain ⟨part, rest, made, none, rfl⟩ :=
      List.forall₂_cons_left_iff.mp (mapM_eq_ok.mp collected)
    exact ⟨part, made, by rw [List.forall₂_nil_left_iff.mp none]⟩
  rw [combine] at combined
  split at combined
  · rename_i mentioned
    split at combined
    · obtain ⟨number, isNumber, isValue⟩ := map_eq_ok.mp combined
      cases isValue
      exact Value.type_of_ofNumber isNumber
    · obtain rfl : part.value = value := Option.some.inj (Except.ok.inj combined)
      rw [contribution] at made
      cases given : literal? body.1 label ch with
      | none =>
          rw [given] at made
          cases made
          cases mentioned
      | some literal =>
          rw [given] at made
          obtain ⟨converted, isConverted, rfl⟩ := map_eq_ok.mp made
          exact Literal.type_of_toValue isConverted
  · cases combined

variable [Processor P]

theorem overlaid_applyChannel {type : ValueType} (plain : type ≠ .audio) (label : String)
    (terminals : List Terminal) (body : Option Assignments × Float) (store : Store P) (ch : Nat) :
    Overlaid (· ∈ terminals) store (applyChannel type label terminals [body] store ch).1 := by
  unfold applyChannel
  split
  · exact .refl _ _
  · exact .refl _ _
  · rename_i value blended
    have written := overlaid_write true ch
      (fun isAudio => plain ((type_of_blend_single blended).symm.trans isAudio)) terminals store
    split <;> rename_i result <;> rw [result] at written <;> exact written

theorem overlaid_applyChannels {type : ValueType} (plain : type ≠ .audio) (label : String)
    (terminals : List Terminal) (body : Option Assignments × Float) (channels : List Nat)
    (store : Store P) :
    Overlaid (· ∈ terminals) store
      (applyChannels type label terminals [body] channels store).1 := by
  induction channels generalizing store with
  | nil => exact .refl _ _
  | cons ch rest inductionHypothesis =>
      rw [applyChannels]
      exact (overlaid_applyChannel plain label terminals body store ch).trans
        (inductionHypothesis _)

theorem overlaid_applyVariable (proc : Proc P) (body : Option Assignments × Float)
    (label : String) (store : Store P) :
    Overlaid (proc.Named [label]) store (applyVariable proc [body] label store).1 := by
  unfold applyVariable
  cases found : proc.variableIndex? label with
  | none => exact .refl _ _
  | some var =>
      dsimp only
      split
      · exact .refl _ _
      · rename_i noSignal
        refine (overlaid_applyChannels ?_ _ _ body _ store).mono fun terminal member =>
          ⟨label, List.mem_singleton_self label, var, found, member⟩
        intro isAudio
        rw [isAudio] at noSignal
        exact noSignal rfl

theorem overlaid_applyVariables (proc : Proc P) (body : Option Assignments × Float)
    (labels : List String) (store : Store P) :
    Overlaid (proc.Named labels) store (applyVariables proc [body] labels store).1 := by
  induction labels generalizing store with
  | nil => exact .refl _ _
  | cons label rest inductionHypothesis =>
      rw [applyVariables]
      refine ((overlaid_applyVariable proc body label store).mono ?_).trans
        ((inductionHypothesis _).mono ?_)
      · rintro terminal ⟨named, member, reached⟩
        exact ⟨named, List.mem_cons.mpr (.inl (List.mem_singleton.mp member)), reached⟩
      · rintro terminal ⟨named, member, reached⟩
        exact ⟨named, List.mem_cons_of_mem label member, reached⟩

end Blend

namespace Build

variable [Processor P]

theorem overlaid_applyClassPreset {proc : Proc P} {spec : ProcSpec} {label : String}
    (asked : spec.preset = some label) (store : Store P) :
    Store.Overlaid (proc.Mentions spec) store (applyClassPreset proc label store).1 := by
  unfold applyClassPreset
  split
  · exact .refl _ _
  · rename_i body found
    refine (Blend.overlaid_applyVariables proc (some body, 1) _ store).mono ?_
    rintro terminal ⟨named, member, reached⟩
    refine ⟨label, body, asked, found, named, ?_, reached⟩
    simpa [Blend.mentionedLabels] using member

/-- The presets that procs ask for at construction write to the variables that they mention. -/
theorem overlaid_applyConstructionPresets {items : List (Proc P × ProcSpec)}
    {store after : Store P} (completed : applyConstructionPresets items store = .ok after) :
    Store.Overlaid (fun terminal => ∃ item ∈ items, item.1.Mentions item.2 terminal) store
      after := by
  fun_induction applyConstructionPresets items store with
  | case1 store =>
      cases completed
      exact .refl _ _
  | case2 proc spec rest store noPreset inductionHypothesis =>
      refine (inductionHypothesis completed).mono ?_
      rintro terminal ⟨item, member, mentions⟩
      exact ⟨item, List.mem_cons_of_mem _ member, mentions⟩
  | case3 proc spec rest store label preset written fault result => cases completed
  | case4 proc spec rest store label preset written result inductionHypothesis =>
      have first : Store.Overlaid (proc.Mentions spec) store
          (applyClassPreset proc label store).1 := overlaid_applyClassPreset preset store
      rw [result] at first
      refine (first.mono ?_).trans ((inductionHypothesis completed).mono ?_)
      · exact fun terminal mentions => ⟨(proc, spec), List.mem_cons_self, mentions⟩
      · rintro terminal ⟨item, member, mentions⟩
        exact ⟨item, List.mem_cons_of_mem _ member, mentions⟩

end Build

end SignalNet
