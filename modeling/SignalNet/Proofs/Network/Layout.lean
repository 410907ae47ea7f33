import SignalNet.Proofs.Native.Editing
import SignalNet.Proofs.Network.Cells

/-!
Contract: the layouts of the banks of a network.

The bank of a native proc is made from the declarations of its class. From then on it is only
edited: by arguments and native code at creation, then by assignments and native steps. So it
stays laid out by the labels of the class.

Owns: `ClassSet.Edits`, the labels of a class, and that the cells of a built network are laid out
in every state (`Network.laidOut_performAll_of_build`).
-/

set_option autoImplicit false

namespace SignalNet

variable {P : Type}

theorem Bank.keptByAssign_laid : Bank.KeptByAssign Bank.Laid :=
  fun _ _ _ _ _ _ laid assigned => laid.edited (filled_of_assign assigned).edited

theorem Processor.keeps_laid [Processor P] [EditingProcessor P] : Processor.Keeps P Bank.Laid :=
  fun _ processor bank context device laid =>
    laid.edited (EditingProcessor.edited_step processor bank context device)

def ClassDescription.labels (description : ClassDescription P) : List String :=
  description.vars.map (·.label)

/-! ## Construction -/

/-- The native classes of a set change banks through the operations of banks only. -/
def ClassSet.Edits (classes : ClassSet P) : Prop :=
  ∀ label description native, classes.get? label = some description →
    description.kind = .plain native → native.Edits

namespace Build

variable {environment : Environment P}

theorem edited_applyArguments {spec : ProcSpec} {arguments : List (String × Literal)}
    {bank stored : Bank} (applied : applyArguments spec arguments bank = .ok stored) :
    bank.Edited stored :=
  applyArguments_keeps .refl (fun _ var literal edited => edited.applyLiteral var literal) applied

theorem laid_createCell {spec : ProcSpec} {description : ClassDescription P}
    {native : NativeClass P} {device : Option Nat} {cell : Cell P}
    (made : createCell environment spec description native device = .ok cell)
    (edits : native.Edits) : cell.bank.Laid description.labels := by
  obtain ⟨start, given, declared, applied, created⟩ := createCell_stages made
  have argued := (Bank.laid_ofDeclarations declared).edited (edited_applyArguments applied)
  exact argued.edited (edits _ _ _ _ created)

theorem createsBy_labels (edits : environment.classes.Edits) :
    CreatesBy environment Bank.Laid ClassDescription.labels :=
  fun _ _ _ _ _ _ known kind made => laid_createCell made (edits _ _ _ known kind)

end Build

/-! ## Runs -/

/-- Whatever is done with a built network, its cells stay laid out by their classes. -/
theorem Network.laidOut_performAll_of_build [Processor P] [EditingProcessor P]
    {classes : ClassSet P} (edits : classes.Edits) {template : Template} {timing : Timing}
    {devices : List Device} {network : Network P}
    (built : Network.build classes template timing devices = .ok network)
    (operations : List Operation) :
    (network.performAll operations).store.Obeys Bank.Laid ClassDescription.labels
      network.level.natives :=
  Network.obeys_performAll_of_build Bank.keptByAssign_laid Processor.keeps_laid
    (Build.createsBy_labels edits) built operations

end SignalNet
