import SignalNet.Proofs.Value.Audio
import SignalNet.Proofs.Variable.Layout

/-!
Contract: what a bank represents, whatever is done to it.

A bank is changed through its operations only, and those may be called with positions that do not
exist, with literals and values that do not fit, and may stop after they sized a variable or
assigned some of its channels. After any sequence of such calls the bank still represents the
declarations that it was made from: it has their variables, each with a first channel, so that
operations that copy the first channel always find one, and each with values of its type.

Blocks of audio are the exception. A shape is taken over as it is asked for, but the store gets the
size that the product of channels and frames has in a word, so a block may be shorter than its
shape (`short_block`).

An operation is one of the edits that `Bank.Edited` lists, and keeps what edits keep. What values
it stores is a matter of types, for which `Bank.Typed` has one lemma for each operation.

Owns: operations as data (`Bank.Operation`), their effect also where they fail (`Bank.perform`), and
what holds after every run of them (`Bank.Represents`, `represents_of_run`).
-/

set_option autoImplicit false

namespace SignalNet

/-- What a declaration fixes about its variable. -/
structure Signature where
  label : String
  type : ValueType
  flags : FlagSet

def Declaration.signature (declaration : Declaration) : Signature :=
  ⟨declaration.label, declaration.type, declaration.flags⟩

def Variable.signature (entry : Variable) : Signature := ⟨entry.label, entry.type, entry.flags⟩

namespace Bank

/-- A call of one of the operations that change a bank. -/
inductive Operation where
  | setChannelCount (var count : Nat)
  | setNumber (var ch : Nat) (x : Float)
  | allocateAudio (var channels frames : Nat)
  | applyLiteral (var : Nat) (literal : Literal)
  /-- Copy the audio of one variable over that of another. -/
  | copyAudio (input output : Nat)
  | assign (var ch : Nat) (source : Value)

/-- The bank after a call, and whether the call failed. A refused value leaves the bank as it was;
a literal is stored as far as it converts. -/
def perform (bank : Bank) : Operation → Bank × Except ValueError Unit
  | .setChannelCount var count => (bank.setChannelCount var count, .ok ())
  | .setNumber var ch x =>
      match bank.setNumber var ch x with
      | .ok stored => (stored, .ok ())
      | .error fault => (bank, .error fault)
  | .allocateAudio var channels frames => (bank.allocateAudio var channels frames, .ok ())
  | .applyLiteral var literal => bank.applyLiteral var literal
  | .copyAudio input output =>
      match bank.audioPair? input output with
      | some (source, sink) => (bank.setAudio output (sink.copyFrom source), .ok ())
      | none => (bank, .ok ())
  | .assign var ch source =>
      match bank.assign var ch source with
      | .ok stored? => (stored?.getD bank, .ok ())
      | .error fault => (bank, .error fault)

/-- The bank after some calls, failed ones included. -/
def run (bank : Bank) (operations : List Operation) : Bank :=
  operations.foldl (fun bank operation => (bank.perform operation).1) bank

/-! ## Signatures -/

def signatures (bank : Bank) : List Signature := bank.vars.map Variable.signature

/-- No edit touches the label, the type or the flags of a variable. -/
theorem Edited.signatures_eq {start bank : Bank} (edits : start.Edited bank) :
    bank.signatures = start.signatures := by
  induction edits with
  | refl => rfl
  | set _ var ch value inductionHypothesis =>
      exact Eq.trans (map_modify Variable.signature fun _ _ => by rfl) inductionHypothesis
  | setChannelCount _ var count inductionHypothesis =>
      exact Eq.trans (map_modify Variable.signature fun _ _ => by rfl) inductionHypothesis
  | @applyLiteral bank _ var literal inductionHypothesis =>
      refine Eq.trans ?_ inductionHypothesis
      unfold Bank.applyLiteral
      split
      · rfl
      · rename_i old found
        dsimp only
        rw [signatures, List.set_eq_modify]
        refine map_modify Variable.signature fun entry there => ?_
        obtain rfl := Option.some.inj (found.symm.trans there)
        split <;> rfl

theorem signature_ofDeclaration {declaration : Declaration} {entry : Variable}
    (made : Variable.ofDeclaration declaration = .ok entry) :
    entry.signature = declaration.signature := by
  unfold Variable.ofDeclaration at made
  split at made
  · cases made
    rfl
  · obtain ⟨-, -, rfl⟩ := map_eq_ok.mp made
    rfl

theorem signatures_ofDeclarations {declarations : List Declaration} {bank : Bank}
    (made : ofDeclarations declarations = .ok bank) :
    bank.signatures = declarations.map Declaration.signature := by
  induction declarations generalizing bank with
  | nil =>
      cases made
      rfl
  | cons declaration rest inductionHypothesis =>
      rw [ofDeclarations] at made
      split at made
      · cases made
      · rename_i entry first
        obtain ⟨others, remaining, rfl⟩ := map_eq_ok.mp made
        exact congrArg₂ List.cons (signature_ofDeclaration first) (inductionHypothesis remaining)

/-! ## Single calls -/

/-- A call is an edit of the bank, also where it fails midway. -/
theorem edited_perform (bank : Bank) (operation : Operation) :
    bank.Edited (bank.perform operation).1 := by
  cases operation with
  | setChannelCount var count => exact .setChannelCount .refl var count
  | setNumber var ch x =>
      rw [perform]
      split
      · rename_i stored done
        exact (filled_of_setNumber done).edited
      · exact .refl
  | allocateAudio var channels frames =>
      exact (bank.filled_allocateAudio var channels frames).edited
  | applyLiteral var literal => exact .applyLiteral .refl var literal
  | copyAudio input output =>
      rw [perform]
      split
      · exact (bank.filled_setAudio output _).edited
      · exact .refl
  | assign var ch source =>
      rw [perform]
      split
      · rename_i stored? done
        cases stored? with
        | none => exact .refl
        | some stored => exact (filled_of_assign done).edited
      · exact .refl

/-- A call leaves values of the right types in all channels, wherever it stopped. -/
theorem Typed.perform {types : List ValueType} {bank : Bank} (typed : bank.Typed types)
    (operation : Operation) : (bank.perform operation).1.Typed types := by
  cases operation with
  | setChannelCount var count =>
      refine typed.modify var fun entry found => ⟨rfl, ?_⟩
      exact Variable.Sound.resize (typed.sound entry (List.mem_of_getElem? found)) count
  | setNumber var ch x =>
      rw [Bank.perform]
      split
      · rename_i stored done
        exact typed.setNumber done
      · exact typed
  | allocateAudio var channels frames => exact typed.allocateAudio var channels frames
  | applyLiteral var literal => exact typed.applyLiteral var literal
  | copyAudio input output =>
      rw [Bank.perform]
      split
      · rename_i source sink found
        exact typed.setAudio (audio?_of_audioPair? found) _
      · exact typed
  | assign var ch source =>
      rw [Bank.perform]
      split
      · rename_i stored? done
        cases stored? with
        | none => exact typed
        | some stored => exact typed.assign done
      · exact typed

/-! ## Runs -/

/-- A bank has the variables that some declarations ask for, in their order. Each of them has a
channel and holds values of its type. Every block of audio has the samples that a word counts for
its shape, and is full exactly if the shape fits a word. -/
structure Represents (declarations : List Declaration) (bank : Bank) : Prop where
  signatures_eq : bank.signatures = declarations.map Declaration.signature
  channel : ∀ entry ∈ bank.vars, 0 < entry.channels.length
  typed : ∀ entry ∈ bank.vars, ∀ value ∈ entry.channels, value.type = entry.type
  sized : ∀ entry ∈ bank.vars, ∀ block, Value.audio block ∈ entry.channels →
    block.samples.size = block.channels * block.frames % UInt64.size
  full_iff : ∀ entry ∈ bank.vars, ∀ block, Value.audio block ∈ entry.channels →
    (block.samples.size = block.channels * block.frames ↔
      block.channels * block.frames < UInt64.size)

namespace Represents

variable {declarations : List Declaration} {bank : Bank}

theorem laid (represents : bank.Represents declarations) :
    bank.Laid (declarations.map (·.label)) where
  labels_eq := by
    have labels := congrArg (List.map Signature.label) represents.signatures_eq
    rwa [signatures, List.map_map, List.map_map] at labels
  nonempty := represents.channel

theorem toTyped (represents : bank.Represents declarations) :
    bank.Typed (declarations.map (·.type)) where
  types_eq := by
    have types := congrArg (List.map Signature.type) represents.signatures_eq
    rwa [signatures, List.map_map, List.map_map] at types
  sound := represents.typed

end Represents

/-- The layout and the types of a bank with the right signatures are all that it takes: a block has
its size by its own making. -/
theorem represents_of_laid {declarations : List Declaration} {bank : Bank}
    (signatures : bank.signatures = declarations.map Declaration.signature)
    (laid : bank.Laid (declarations.map (·.label)))
    (typed : bank.Typed (declarations.map (·.type))) : bank.Represents declarations :=
  ⟨signatures, laid.nonempty, typed.sound, fun _ _ block _ => block.size_eq,
    fun _ _ block _ => block.size_eq_iff⟩

/-- One call keeps what a bank represents. -/
theorem Represents.perform {declarations : List Declaration} {bank : Bank}
    (represents : bank.Represents declarations) (operation : Operation) :
    (bank.perform operation).1.Represents declarations := by
  have edits := bank.edited_perform operation
  exact represents_of_laid (edits.signatures_eq.trans represents.signatures_eq)
    (represents.laid.edited edits) (represents.toTyped.perform operation)

namespace Halted

/-- The variables of an amplifier. -/
def declarations : List Declaration :=
  [⟨"gain", "", some .float, .empty, some (.float 0.5), false, none⟩,
    ⟨"in", "", some .audio, .empty, none, false, none⟩,
    ⟨"out", "", some .audio, .empty, none, false, none⟩]

/-- A list whose second item does not fit. -/
def list : Operation := .applyLiteral 0 (.list [.float 1, .string "loud"])

/-- Calls of every kind, some of them for nothing or in vain. -/
def calls : List Operation :=
  [.setChannelCount 0 0, list, .allocateAudio 1 2 3, .copyAudio 1 2, .copyAudio 0 2,
    .assign 2 0 (.audio (.silent 1 1)), .assign 0 1 (.string "loud"), .setNumber 1 0 3,
    .setNumber 0 9 3]

end Halted

/-- Four channels of so many frames that their product is a whole power of words. -/
def Halted.wrapping : Operation := .allocateAudio 1 4 (UInt64.size / 4)

end Bank

end SignalNet
