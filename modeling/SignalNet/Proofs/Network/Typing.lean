import SignalNet.Proofs.Native.Typing
import SignalNet.Proofs.Network.Cells

/-!
Contract: every cell of a network holds values of the declared types.

A cell is typed by the class of its proc when it is created. Everything that happens to a
store later, in the rest of the construction and in all operations on the network, assigns
to cells or steps them, and both keep the types.

Owns: `Store.Holds` and what keeps it, and that built networks are typed.
-/

set_option autoImplicit false

namespace SignalNet

variable {P : Type}

/-! ## Typed cells -/

theorem Bank.keptByAssign_typed : Bank.KeptByAssign Bank.Typed :=
  fun _ _ _ _ _ _ typed assigned => typed.assign assigned

theorem Processor.keeps_typed [Processor P] [TypedProcessor P] : Processor.Keeps P Bank.Typed :=
  fun _ processor _ context device typed => TypedProcessor.typed_step processor context device typed

theorem Cell.typed_write [Processor P] {cell changed : Cell P} {notify : Bool} {var ch : Nat}
    {value : Value} (stored : cell.write notify var ch value = .ok (some changed))
    {types : List ValueType} (typed : cell.bank.Typed types) : changed.bank.Typed types :=
  Bank.keptByAssign_typed.cell_write stored typed

namespace Store

/-- The bank of the cell in a slot has some types. -/
def Holds (store : Store P) (slot : Nat) (types : List ValueType) : Prop :=
  ∃ cell, store[slot]? = some cell ∧ cell.bank.Typed types

/-- Cells keep their types from one store to another. -/
def Retains (before after : Store P) : Prop :=
  ∀ slot types, before.Holds slot types → after.Holds slot types

variable {before after : Store P}

theorem retains_set {store : Store P} {slot : Nat} {cell changed : Cell P}
    (found : store[slot]? = some cell)
    (keeps : ∀ types, cell.bank.Typed types → changed.bank.Typed types) :
    store.Retains (store.set slot changed) :=
  preserves_set found keeps

theorem Written.retains [Processor P] {reached : Terminal → Prop}
    (written : Written reached before after) : before.Retains after :=
  written.preserves Bank.keptByAssign_typed

end Store

theorem Signals.retains_step [Processor P] [TypedProcessor P] (signals : Signals P)
    (slot : Nat) (device : Option Nat) :
    signals.store.Retains (signals.step slot device).1.store :=
  signals.preserves_step Processor.keeps_typed slot device

def ClassDescription.types (description : ClassDescription P) : List ValueType :=
  description.vars.map (·.type)

/-- The cells of some native procs are typed by their classes. -/
def Store.Types (store : Store P) (natives : List (ClassDescription P × Nat)) : Prop :=
  ∀ native ∈ natives, store.Holds native.2 native.1.types

/-! ## Construction -/

/-- The native classes of a set keep banks typed. -/
def ClassSet.Lawful (classes : ClassSet P) : Prop :=
  ∀ label description native, classes.get? label = some description →
    description.kind = .plain native → native.Typed

namespace Build

variable {environment : Environment P}

theorem typed_applyArguments {spec : ProcSpec} {arguments : List (String × Literal)}
    {bank stored : Bank} (applied : applyArguments spec arguments bank = .ok stored)
    {types : List ValueType} (typed : bank.Typed types) : stored.Typed types :=
  applyArguments_keeps typed (fun _ var literal kept => kept.applyLiteral var literal) applied

theorem typed_createCell {spec : ProcSpec} {description : ClassDescription P}
    {native : NativeClass P} {device : Option Nat} {cell : Cell P}
    (made : createCell environment spec description native device = .ok cell)
    (lawful : native.Typed) : cell.bank.Typed description.types := by
  obtain ⟨start, given, declared, applied, created⟩ := createCell_stages made
  exact lawful _ _ _ _ _ created (typed_applyArguments applied (Bank.typed_ofDeclarations declared))

theorem createsBy_types (lawful : environment.classes.Lawful) :
    CreatesBy environment Bank.Typed ClassDescription.types :=
  fun _ _ _ _ _ _ known kind made => typed_createCell made (lawful _ _ _ known kind)

end Build

/-! ## Runs -/

/-- Whatever is done with a built network, its cells stay typed by their classes. -/
theorem Network.types_performAll_of_build [Processor P] [TypedProcessor P] {classes : ClassSet P}
    (lawful : classes.Lawful) {template : Template} {timing : Timing} {devices : List Device}
    {network : Network P}
    (built : Network.build classes template timing devices = .ok network)
    (operations : List Operation) :
    (network.performAll operations).store.Types network.level.natives :=
  Network.obeys_performAll_of_build Bank.keptByAssign_typed Processor.keeps_typed
    (Build.createsBy_types lawful) built operations

end SignalNet
