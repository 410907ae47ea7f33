import SignalNet.Proofs.Network.Construction
import SignalNet.Proofs.Network.Operation

/-!
Contract: what the banks of a network keep.

The bank of a native proc is made by its class. From then on it changes in two ways only: a
value is assigned to a channel, or the processor steps. A law of banks that holds of whatever the
classes make, and that assignments and steps keep, therefore holds of all banks in every state of
a built network. What the law asks of a bank may depend on its class.

Owns: the native procs of a tree (`Proc.natives`), laws of cells (`Store.Meets`,
`Store.Preserves`, `Store.Obeys`), and the principle for built networks
(`Network.obeys_performAll_of_build`).
-/

set_option autoImplicit false

namespace SignalNet

variable {P ι : Type}

/-! ## Native procs -/

mutual

/-- The native procs in a proc: their classes and their cells. -/
def Proc.natives : Proc P → List (ClassDescription P × Nat)
  | .native head slot => [(head.description, slot)]
  | .subnet _ procs _ _ _ => nativesOf procs

def nativesOf : List (Proc P) → List (ClassDescription P × Nat)
  | [] => []
  | proc :: rest => proc.natives ++ nativesOf rest

end

theorem nativesOf_eq_flatMap (procs : List (Proc P)) :
    nativesOf procs = procs.flatMap Proc.natives := by
  induction procs with
  | nil => rfl
  | cons proc rest inductionHypothesis => rw [nativesOf, List.flatMap_cons, inductionHypothesis]

theorem Proc.natives_withInputs (proc : Proc P) (inputs : List Connection) :
    (proc.withInputs inputs).natives = proc.natives := by
  cases proc <;> simp only [Proc.withInputs, Proc.natives]

def Level.natives (level : Level P) : List (ClassDescription P × Nat) := nativesOf level.procs

theorem Level.Within.mem_natives {level inside : Level P} (within : level.Within inside)
    {head : ProcHead P} {slot : Nat} (member : .native head slot ∈ inside.procs) :
    (head.description, slot) ∈ level.natives := by
  induction within with
  | self level =>
      rw [natives, nativesOf_eq_flatMap]
      exact List.mem_flatMap_of_mem member (List.mem_singleton_self _)
  | @inner level proc below inside isProc isSubnet _ inductionHypothesis =>
      rw [natives, nativesOf_eq_flatMap]
      apply List.mem_flatMap_of_mem isProc
      cases proc with
      | native head slot => cases isSubnet
      | subnet head procs order presets forwards =>
          cases isSubnet
          exact inductionHypothesis member

theorem Level.Within.natives_subset {level inside : Level P} (within : level.Within inside) :
    inside.natives ⊆ level.natives := by
  induction within with
  | self level => exact List.Subset.refl _
  | @inner level proc below inside isProc isSubnet _ inductionHypothesis =>
      intro native member
      rw [natives, nativesOf_eq_flatMap]
      refine List.mem_flatMap_of_mem isProc ?_
      cases proc with
      | native head slot => cases isSubnet
      | subnet head procs order presets forwards =>
          cases isSubnet
          exact inductionHypothesis member

/-! ## Laws of cells -/

/-- A law of banks that assignments to channels keep. -/
def Bank.KeptByAssign (law : ι → Bank → Prop) : Prop :=
  ∀ index bank stored var ch source, law index bank →
    bank.assign var ch source = .ok (some stored) → law index stored

/-- A law of banks that the steps of processors keep. -/
def Processor.Keeps (P : Type) [Processor P] (law : ι → Bank → Prop) : Prop :=
  ∀ index (processor : P) bank context device,
    law index bank → law index (Processor.step processor bank context device).bank

theorem Bank.KeptByAssign.cell_write [Processor P] {law : ι → Bank → Prop}
    (keeps : Bank.KeptByAssign law) {cell changed : Cell P} {notify : Bool} {var ch : Nat}
    {value : Value} (stored : cell.write notify var ch value = .ok (some changed)) {index : ι}
    (holds : law index cell.bank) : law index changed.bank := by
  obtain ⟨stored?, assigned, isChanged⟩ := map_eq_ok.mp stored
  obtain ⟨bank, rfl, rfl⟩ := Option.map_eq_some_iff.mp isChanged
  exact keeps _ _ _ _ _ _ holds assigned

namespace Store

/-- The bank of the cell in a slot obeys a law. -/
def Meets (law : ι → Bank → Prop) (store : Store P) (slot : Nat) (index : ι) : Prop :=
  ∃ cell, store[slot]? = some cell ∧ law index cell.bank

/-- Cells keep obeying a law from one store to another. -/
def Preserves (law : ι → Bank → Prop) (before after : Store P) : Prop :=
  ∀ slot index, before.Meets law slot index → after.Meets law slot index

variable {law : ι → Bank → Prop} {before middle after : Store P}

theorem Preserves.refl (store : Store P) : store.Preserves law store := fun _ _ meets => meets

theorem Preserves.trans (first : before.Preserves law middle)
    (second : middle.Preserves law after) : before.Preserves law after :=
  fun slot index meets => second slot index (first slot index meets)

theorem preserves_append (store more : Store P) : store.Preserves law (store ++ more) := by
  rintro slot index ⟨cell, found, holds⟩
  refine ⟨cell, ?_, holds⟩
  rw [List.getElem?_append_left (List.getElem?_eq_some_iff.mp found).1]
  exact found

theorem preserves_set {store : Store P} {slot : Nat} {cell changed : Cell P}
    (found : store[slot]? = some cell)
    (keeps : ∀ index, law index cell.bank → law index changed.bank) :
    store.Preserves law (store.set slot changed) := by
  rintro other index ⟨old, there, holds⟩
  by_cases here : slot = other
  · subst here
    obtain rfl := Option.some.inj (found.symm.trans there)
    exact ⟨changed, List.getElem?_set_self (List.getElem?_eq_some_iff.mp found).1,
      keeps index holds⟩
  · exact ⟨old, by rw [List.getElem?_set_ne here, there], holds⟩

theorem Written.preserves [Processor P] (keeps : Bank.KeptByAssign law)
    {reached : Terminal → Prop} (written : Written reached before after) :
    before.Preserves law after := by
  induction written with
  | refl => exact .refl before
  | assign _ _ found stored inductionHypothesis =>
      refine inductionHypothesis.trans (preserves_set found ?_)
      exact fun _ holds => keeps.cell_write stored holds

/-- The cells of some native procs obey a law, each with the index that its class expects. -/
def Obeys (law : ι → Bank → Prop) (expected : ClassDescription P → ι) (store : Store P)
    (natives : List (ClassDescription P × Nat)) : Prop :=
  ∀ native ∈ natives, store.Meets law native.2 (expected native.1)

theorem Obeys.preserved {expected : ClassDescription P → ι}
    {natives : List (ClassDescription P × Nat)} (obeys : before.Obeys law expected natives)
    (preserves : before.Preserves law after) : after.Obeys law expected natives :=
  fun native member => preserves _ _ (obeys native member)

end Store

theorem Signals.preserves_step [Processor P] {law : ι → Bank → Prop}
    (keeps : Processor.Keeps P law) (signals : Signals P) (slot : Nat)
    (device : Option Nat) :
    signals.store.Preserves law (signals.step slot device).1.store := by
  unfold Signals.step
  split
  · exact .refl _
  · rename_i found
    exact Store.preserves_set found fun _ holds => keeps _ _ _ _ _ holds

/-! ## Construction -/

namespace Build

/-- The cells that plain classes of a set are created with obey a law, with the index that the
class expects. -/
def CreatesBy (environment : Environment P) (law : ι → Bank → Prop)
    (expected : ClassDescription P → ι) : Prop :=
  ∀ label description native spec device cell,
    environment.classes.get? label = some description → description.kind = .plain native →
      createCell environment spec description native device = .ok cell →
        law (expected description) cell.bank

/-- A level builder leaves the law to the cells that are there, and makes cells that obey it. -/
def MakesLawful (law : ι → Bank → Prop) (expected : ClassDescription P → ι)
    (inner : LevelBuilder P) : Prop :=
  ∀ template replica exposed store level after,
    inner template replica exposed store = .ok (level, after) →
      store.Preserves law after ∧ after.Obeys law expected level.natives

variable [Processor P] {environment : Environment P} {inner : LevelBuilder P}
  {law : ι → Bank → Prop} {expected : ClassDescription P → ι}

theorem obeys_createProc (keeps : Bank.KeptByAssign law)
    (createsBy : CreatesBy environment law expected) (makes : MakesLawful law expected inner)
    {spec : ProcSpec} {description : ClassDescription P}
    (known : environment.classes.get? spec.className = some description)
    {replica : Option Nat} {store after : Store P} {proc : Proc P}
    (made : createProc environment inner spec description replica store = .ok (proc, after)) :
    store.Preserves law after ∧ after.Obeys law expected proc.natives := by
  obtain ⟨device, -, ⟨native, cell, kind, cellMade, rfl, rfl⟩ |
    ⟨template, level, middle, targets, -, levelBuilt, -, isSubnet, literals⟩⟩ :=
    createProc_cases made
  · refine ⟨store.preserves_append [cell], fun native member => ?_⟩
    rw [List.mem_singleton.mp member]
    exact ⟨cell, by simp, createsBy _ _ _ _ _ _ known kind cellMade⟩
  · obtain ⟨preserves, obeys⟩ := makes _ _ _ _ _ _ levelBuilt
    have written := (written_writeSubnet literals).preserves keeps
    rw [isSubnet]
    exact ⟨preserves.trans written, obeys.preserved written⟩

theorem obeys_created (keeps : Bank.KeptByAssign law)
    (createsBy : CreatesBy environment law expected) (makes : MakesLawful law expected inner)
    {specs : List ProcSpec} {around : Option Nat} {store after : Store P}
    {created : List (Proc P × ProcSpec)}
    (made : Created environment inner specs around store created after) :
    store.Preserves law after ∧ after.Obeys law expected (nativesOf (created.map (·.1))) := by
  induction made with
  | nil store => exact ⟨.refl store, fun native member => absurd member List.not_mem_nil⟩
  | cons _ known _ _ made _ inductionHypothesis =>
      obtain ⟨preserves, obeys⟩ := obeys_createProc keeps createsBy makes known made
      obtain ⟨later, others⟩ := inductionHypothesis
      refine ⟨preserves.trans later, fun native member => ?_⟩
      rcases List.mem_append.mp member with first | rest
      · exact obeys.preserved later native first
      · exact others native rest

/-- A law that creation establishes and assignments keep holds of all cells after building. -/
theorem makesLawful_buildNested (keeps : Bank.KeptByAssign law)
    (createsBy : CreatesBy environment law expected) (depth : Nat) :
    MakesLawful law expected (buildNested environment depth) := by
  induction depth with
  | zero =>
      intro template replica exposed store level after built
      cases built
  | succ depth inductionHypothesis =>
      intro template replica exposed store level after built
      obtain ⟨created, middle, assembled⟩ := assembled_of_buildLevel built
      obtain ⟨preserves, obeys⟩ := obeys_created keeps createsBy inductionHypothesis assembled.made
      have written := (written_applyConstructionPresets assembled.preset).preserves keeps
      refine ⟨preserves.trans written, ?_⟩
      rw [Level.natives, nativesOf_eq_flatMap,
        flatMap_of_bindInputs Proc.natives_withInputs assembled.bound, ← nativesOf_eq_flatMap]
      exact obeys.preserved written

end Build

/-! ## Runs -/

theorem Network.obeys_performAll [Processor P] {law : ι → Bank → Prop}
    {expected : ClassDescription P → ι} (keeps : Bank.KeptByAssign law)
    (steps : Processor.Keeps P law) (network : Network P) (operations : List Operation)
    {natives : List (ClassDescription P × Nat)}
    (obeys : network.store.Obeys law expected natives) :
    (network.performAll operations).store.Obeys law expected natives :=
  Network.performAll_keeps (motive := fun store => store.Obeys law expected natives)
    (fun _ _ before written => before.preserved (written.preserves keeps))
    (fun signals slot device before =>
      before.preserved (signals.preserves_step steps slot device))
    network operations obeys

/-- A law that creation establishes, and that assignments and steps keep, holds of all cells of a
built network, whatever was done with it. -/
theorem Network.obeys_performAll_of_build [Processor P] {law : ι → Bank → Prop}
    {expected : ClassDescription P → ι} {classes : ClassSet P} {template : Template}
    {timing : Timing} {devices : List Device} {network : Network P}
    (keeps : Bank.KeptByAssign law) (steps : Processor.Keeps P law)
    (createsBy : Build.CreatesBy ⟨classes, timing, devices⟩ law expected)
    (built : Network.build classes template timing devices = .ok network)
    (operations : List Operation) :
    (network.performAll operations).store.Obeys law expected network.level.natives := by
  obtain ⟨nested, -⟩ := Build.buildNested_of_build built
  obtain ⟨-, initial⟩ := Build.makesLawful_buildNested keeps createsBy _ _ _ _ _ _ _ nested
  exact network.obeys_performAll keeps steps operations initial

end SignalNet
