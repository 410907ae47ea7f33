import SignalNet.Native.Descriptions
import SignalNet.Proofs.Network.Linkage
import SignalNet.Proofs.Network.Locality
import SignalNet.Proofs.Network.Places
import SignalNet.Proofs.Network.Typing

/-!
Contract: type soundness of networks.

Every channel of every native variable holds a value of the declared type, after any
operations, and no connection ever meets a value that it cannot convert for its type. The
first is kept by assignments and steps. The second follows: a connection leads between
types that convert into each other, so only a number out of range can stop it.

Owns: the types of terminals (`Store.HasType`), what a run can be stopped by
(`Signals.outOfRange_of_run`), and the law of whole networks (`types_sound`).
-/

set_option autoImplicit false

namespace SignalNet

variable {P : Type}

/-! ## Refused writes -/

/-- Between types that connect, a conversion is refused only for its range. -/
theorem Value.outOfRange_of_convert {value : Value} {type : ValueType} {fault : ValueError}
    (connects : Build.connectable value.type type = true)
    (refused : value.convert type = .error fault) :
    ∃ expected excess, fault = .outOfRange expected excess := by
  have matching : value.type = type ∨ value.type.isScalar = true ∧ type.isScalar = true := by
    simpa [Build.connectable] using connects
  cases fault with
  | outOfRange expected excess => exact ⟨expected, excess, rfl⟩
  | mismatch expected found =>
      exact absurd refused ((value.convert_ne_mismatch_iff type).mpr matching expected found)

theorem Cell.convert_of_write_error [Processor P] {cell : Cell P} {notify : Bool} {var ch : Nat}
    {value : Value} {fault : ValueError} (refused : cell.write notify var ch value = .error fault) :
    ∃ place, cell.bank.get? var ch = some place ∧ value.convert place.type = .error fault := by
  unfold write Bank.assign at refused
  cases present : cell.bank.get? var ch with
  | none =>
      rw [present] at refused
      cases refused
  | some place =>
      simp only [present, Value.assign_eq_convert] at refused
      cases converted : value.convert place.type with
      | ok held =>
          rw [converted] at refused
          cases refused
      | error other =>
          rw [converted] at refused
          cases refused
          exact ⟨place, rfl, converted⟩

namespace Store

/-- A terminal leads to a variable of some type. -/
def HasType (store : Store P) (terminal : Terminal) (type : ValueType) : Prop :=
  ∃ types, store.Holds terminal.slot types ∧ types[terminal.var]? = some type

theorem HasType.retained {before after : Store P} {terminal : Terminal} {type : ValueType}
    (typed : before.HasType terminal type) (retains : before.Retains after) :
    after.HasType terminal type := by
  obtain ⟨types, holds, isType⟩ := typed
  exact ⟨types, retains _ _ holds, isType⟩

theorem HasType.type_of_get? {store : Store P} {terminal : Terminal} {type : ValueType}
    (typed : store.HasType terminal type) {cell : Cell P}
    (found : store[terminal.slot]? = some cell) {ch : Nat} {value : Value}
    (held : cell.bank.get? terminal.var ch = some value) : value.type = type := by
  obtain ⟨types, ⟨other, there, bankTyped⟩, isType⟩ := typed
  obtain rfl := Option.some.inj (found.symm.trans there)
  exact Option.some.inj ((bankTyped.type_of_get? held).symm.trans isType)

theorem type_of_value? {store : Store P} {terminals : List Terminal} {type : ValueType}
    (typed : ∀ terminal ∈ terminals, store.HasType terminal type) {ch : Nat} {value : Value}
    (found : store.value? terminals ch = some value) : value.type = type := by
  cases terminals with
  | nil => simp [value?, channels] at found
  | cons terminal rest =>
      rw [value?_cons, place?_eq] at found
      obtain ⟨cell, there, held⟩ := Option.bind_eq_some_iff.mp found
      exact (typed terminal List.mem_cons_self).type_of_get? there held

variable [Processor P] {type : ValueType} {fault : ValueError}

/-- A value that connects to a type is written to variables of that type, or it is out of
range. -/
theorem outOfRange_of_write {notify : Bool} {ch : Nat} {value : Value} {terminals : List Terminal}
    {store : Store P} (connects : Build.connectable value.type type = true)
    (typed : ∀ terminal ∈ terminals, store.HasType terminal type)
    (refused : (write notify ch value terminals store).2 = .error fault) :
    ∃ expected excess, fault = .outOfRange expected excess := by
  fun_induction write notify ch value terminals store with
  | case1 store => cases refused
  | case2 terminal rest store absent inductionHypothesis =>
      exact inductionHypothesis (fun other member => typed other (List.mem_cons_of_mem _ member))
        refused
  | case3 terminal rest store cell found other stopped =>
      cases refused
      obtain ⟨place, held, notConverted⟩ := Cell.convert_of_write_error stopped
      rw [(typed terminal List.mem_cons_self).type_of_get? found held] at notConverted
      exact Value.outOfRange_of_convert connects notConverted
  | case4 terminal rest store cell found noChannel inductionHypothesis =>
      exact inductionHypothesis (fun other member => typed other (List.mem_cons_of_mem _ member))
        refused
  | case5 terminal rest store cell found changed stored written outcome result
      inductionHypothesis =>
      have retains := retains_set found fun _ bankTyped => Cell.typed_write stored bankTyped
      rw [result] at inductionHypothesis
      refine inductionHypothesis (fun other member =>
        (typed other (List.mem_cons_of_mem _ member)).retained retains) ?_
      cases outcome with
      | error other => simpa [Except.map] using refused
      | ok wrote => cases refused

theorem outOfRange_of_writeChannels {given : ValueType} {terminals : List Terminal} {ch : Nat}
    {values : List Value} {store : Store P} (connects : Build.connectable given type = true)
    (ofType : ∀ value ∈ values, value.type = given)
    (typed : ∀ terminal ∈ terminals, store.HasType terminal type)
    (refused : (writeChannels terminals ch values store).2 = .error fault) :
    ∃ expected excess, fault = .outOfRange expected excess := by
  fun_induction writeChannels terminals ch values store with
  | case1 ch store => cases refused
  | case2 ch value rest store written other result =>
      cases refused
      have stopped : (write false ch value terminals store).2 = .error fault := by rw [result]
      refine outOfRange_of_write ?_ typed stopped
      rw [ofType value List.mem_cons_self]
      exact connects
  | case3 ch value rest store written wrote result inductionHypothesis =>
      have retains := (written_write false ch value terminals store).retains
      rw [result] at retains
      exact inductionHypothesis (fun other member => ofType other (List.mem_cons_of_mem _ member))
        (fun terminal member => (typed terminal member).retained retains) refused

end Store

/-! ## Runs -/

/-- A copy leads between variables of types that connect. -/
def Instruction.Fits (store : Store P) : Instruction → Prop
  | .copy _ _ source destination => ∃ given wanted, Build.connectable given wanted = true ∧
      (∀ terminal ∈ source, store.HasType terminal given) ∧
      ∀ terminal ∈ destination, store.HasType terminal wanted
  | .step .. => True

theorem Instruction.Fits.retained {before after : Store P} {instruction : Instruction}
    (fits : instruction.Fits before) (retains : before.Retains after) :
    instruction.Fits after := by
  cases instruction with
  | copy proc var source destination =>
      obtain ⟨given, wanted, connects, ofSource, ofDestination⟩ := fits
      exact ⟨given, wanted, connects,
        fun terminal member => (ofSource terminal member).retained retains,
        fun terminal member => (ofDestination terminal member).retained retains⟩
  | step proc className slot device => trivial

namespace Signals

variable [Processor P] {signals after : Signals P} {proc var : String}
  {fault : ValueError}

theorem retains_perform [TypedProcessor P] (signals : Signals P)
    (instruction : Instruction) :
    signals.store.Retains (signals.perform instruction).1.store := by
  cases instruction with
  | copy proc var source destination =>
      exact (Store.written_writeChannels destination 0 (signals.store.channels source)
        signals.store).retains
  | step proc className slot device => exact signals.retains_step slot device

theorem outOfRange_of_perform {instruction : Instruction} (fits : instruction.Fits signals.store)
    (failed : (signals.perform instruction).2 = .error (.input proc var fault)) :
    ∃ expected excess, fault = .outOfRange expected excess := by
  cases instruction with
  | copy name label source destination =>
      obtain ⟨given, wanted, connects, ofSource, ofDestination⟩ := fits
      have refused : (signals.store.writeChannels destination 0 (signals.store.channels source)).2 =
          .error fault := by
        simp only [perform, copy] at failed
        cases outcome : (signals.store.writeChannels destination 0
            (signals.store.channels source)).2 with
        | ok done =>
            rw [outcome] at failed
            cases failed
        | error other =>
            rw [outcome] at failed
            cases failed
            rfl
      refine Store.outOfRange_of_writeChannels connects (fun value member => ?_) ofDestination
        refused
      obtain ⟨ch, there⟩ := List.mem_iff_getElem?.mp member
      exact Store.type_of_value? ofSource there
  | step name className slot device =>
      simp only [perform] at failed
      cases outcome : (signals.step slot device).2 with
      | ok status =>
          rw [outcome] at failed
          cases failed
      | error other =>
          rw [outcome] at failed
          cases failed

/-- A run whose instructions fit is stopped by an input only if a number is out of range. -/
theorem outOfRange_of_run [TypedProcessor P] {status : StepStatus} {program : List Instruction}
    (fits : ∀ instruction ∈ program, instruction.Fits signals.store)
    (failed : run status program signals = (after, .error (.input proc var fault))) :
    ∃ expected excess, fault = .outOfRange expected excess := by
  induction program generalizing status signals with
  | nil => cases failed
  | cons instruction rest inductionHypothesis =>
      have here := fits instruction List.mem_cons_self
      have retains := retains_perform signals instruction
      rw [run] at failed
      split at failed <;> rename_i result
      · cases failed
        exact outOfRange_of_perform here (congrArg Prod.snd result)
      · rw [result] at retains
        exact inductionHypothesis (fun other member =>
          (fits other (List.mem_cons_of_mem _ member)).retained retains) failed

end Signals

/-! ## Built networks -/

/-- What holds of the copies into all procs, at every depth, and of all steps, holds of all
instructions of a network. -/
theorem Level.forall_mem_program {level : Level P} {motive : Instruction → Prop}
    (copied : ∀ inside, level.Within inside → ∀ proc ∈ inside.procs,
      ∀ instruction ∈ proc.copies inside.procs, motive instruction)
    (stepped : ∀ proc className slot device, motive (.step proc className slot device)) :
    ∀ instruction ∈ level.program, motive instruction := by
  have ofProc : ∀ (proc : Proc P) (inside : Level P), level.Within inside → proc ∈ inside.procs →
      ∀ instruction ∈ proc.program, motive instruction := by
    intro proc
    induction proc with
    | native head slot =>
        intro inside within member instruction contributed
        rw [Proc.program, List.mem_singleton] at contributed
        rw [contributed]
        exact stepped _ _ _ _
    | subnet head procs order presets forwards inductionHypothesis =>
        intro inside within member instruction contributed
        have below : level.Within ⟨procs, order, presets⟩ :=
          within.trans (.inner member rfl (.self _))
        obtain ⟨position, inner, found, isCopy | isInner⟩ := Proc.mem_program_subnet contributed
        · exact copied _ below inner (List.mem_of_getElem? found) instruction isCopy
        · exact inductionHypothesis inner (List.mem_of_getElem? found) _ below
            (List.mem_of_getElem? found) instruction isInner
  intro instruction member
  obtain ⟨position, -, inBlock⟩ := mem_program member
  obtain ⟨proc, found, isCopy | isProc⟩ := mem_block inBlock
  · exact copied level (.self level) proc (List.mem_of_getElem? found) instruction isCopy
  · exact ofProc proc level (.self level) (List.mem_of_getElem? found) instruction isProc

section

variable {classes : ClassSet P} {level : Level P} {store : Store P}
  (linked : ∀ inside, level.Within inside → inside.Linked classes)
  (typed : store.Types level.natives)

include linked typed

theorem Level.Within.hasType_of_terminal {proc : Proc P} {inside : Level P}
    (within : level.Within inside) (member : proc ∈ inside.procs) {var : Nat}
    {declaration : Declaration} (declared : proc.declaration? var = some declaration)
    {terminal : Terminal} (reached : terminal ∈ proc.terminals var) :
    store.HasType terminal declaration.type := by
  induction proc generalizing inside var declaration with
  | native head slot =>
      rw [Proc.terminals, List.mem_singleton] at reached
      rw [reached]
      refine ⟨_, typed _ (within.mem_natives member), ?_⟩
      have atVar : head.description.vars[var]? = some declaration := declared
      rw [ClassDescription.types, List.getElem?_map, atVar, Option.map_some]
  | subnet head procs order presets forwards inductionHypothesis =>
      rw [Proc.terminals, List.mem_flatMap] at reached
      obtain ⟨target, forwarded, inInner⟩ := reached
      obtain ⟨inner, found, isInner, isFound, sameType⟩ :=
        (linked inside within).forwards _ _ _ _ _ member var declaration declared target forwarded
      rw [terminalsAt_of_getElem? isInner] at inInner
      have innerMember := List.mem_of_getElem? isInner
      have innerTyped := inductionHypothesis inner innerMember
        (within.trans (.inner member rfl (.self _))) innerMember isFound inInner
      rwa [Declaration.type, sameType] at innerTyped

theorem Level.fits_program : ∀ instruction ∈ level.program, instruction.Fits store := by
  refine Level.forall_mem_program ?_ fun _ _ _ _ => trivial
  intro inside within proc member instruction isCopy
  obtain ⟨connection, isInput, rfl⟩ := List.mem_map.mp isCopy
  obtain ⟨source, given, wanted, isSource, isGiven, isWanted, connects⟩ :=
    (linked inside within).connections proc member connection isInput
  refine ⟨given.type, wanted.type, connects, fun terminal reached => ?_, fun terminal reached => ?_⟩
  · rw [terminalsAt_of_getElem? isSource] at reached
    exact within.hasType_of_terminal linked typed (List.mem_of_getElem? isSource) isGiven reached
  · exact within.hasType_of_terminal linked typed member isWanted reached

end

/-- A variable has a declared type, and all its channels hold values of that type. -/
def Declaration.Honoured (declaration : Declaration) (entry : Variable) : Prop :=
  ∃ type, declaration.declared = some type ∧ ∀ value ∈ entry.channels, value.type = type

theorem Bank.Typed.honoured {description : ClassDescription P} {bank : Bank}
    (typed : bank.Typed description.types)
    (declared : ∀ declaration ∈ description.vars, declaration.declared.isSome = true) :
    List.Forall₂ Declaration.Honoured description.vars bank.vars := by
  have sameTypes : bank.vars.map (·.type) = description.vars.map (·.type) := typed.types_eq
  refine List.forall₂_iff_get.mpr ⟨?_, fun position below entryBelow => ?_⟩
  · simpa using (congrArg List.length sameTypes).symm
  · obtain ⟨type, isType⟩ := Option.isSome_iff_exists.mp
      (declared _ (List.getElem_mem below))
    refine ⟨type, isType, fun value member => ?_⟩
    have here : bank.vars[position].type = description.vars[position].type := by
      have both := congrArg (·[position]?) sameTypes
      simpa [List.getElem?_eq_getElem below, List.getElem?_eq_getElem entryBelow] using both
    have ofEntry := typed.sound _ (List.getElem_mem entryBelow) value member
    rw [ofEntry, here, Declaration.type, isType, Option.getD_some]

/-! ## The built-in classes -/

section

variable {tables : List (List (String × Toml))} {classes : ClassSet Builtin}
  {template : Template} {timing : Timing} {devices : List Device} {network : Network Builtin}

theorem coherent_of_finish
    (finished : ((Catalogue.empty Registry.builtin).addTables tables).finish = .ok classes) :
    classes.Coherent Registry.builtin := by
  obtain ⟨wellFormed, sameRegistry⟩ := Catalogue.wellFormed_addTables Registry.builtin tables
  have coherent := wellFormed.coherent finished
  rwa [sameRegistry] at coherent

/-- Over the built-in classes, a coherent class set keeps banks typed. -/
theorem ClassSet.Coherent.lawful (coherent : classes.Coherent Registry.builtin) :
    classes.Lawful := fun label description native known kind =>
  Registry.typed_builtin (coherent.registered label description native known kind)

/-- Whatever is done with a network over the built-in classes, its cells stay typed. -/
theorem Network.types_of_build (coherent : classes.Coherent Registry.builtin)
    (built : Network.build classes template timing devices = .ok network)
    (operations : List Operation) :
    (network.performAll operations).store.Types network.level.natives :=
  Network.types_performAll_of_build coherent.lawful built operations

/-- Over the built-in classes, every channel of every native variable holds a value of the
declared type in every state of a built network, at every depth. A cycle is stopped by an
input only if a number is out of range, and never by the type of a value. -/
theorem types_sound
    (finished : ((Catalogue.empty Registry.builtin).addTables tables).finish = .ok classes)
    (built : Network.build classes template timing devices = .ok network)
    (operations : List Operation) :
    let reached := network.performAll operations
    (∀ inside, reached.level.Within inside → ∀ head slot, .native head slot ∈ inside.procs →
      ∃ bank, reached.store.bank? slot = some bank ∧
        List.Forall₂ Declaration.Honoured head.description.vars bank.vars) ∧
      ∀ after proc var fault, reached.cycle = (after, .error (.input proc var fault)) →
        ∃ type excess, fault = .outOfRange type excess := by
  intro reached
  have coherent := coherent_of_finish finished
  have linked : ∀ inside, network.level.Within inside → inside.Linked classes :=
    fun inside within => Build.linked_of_build coherent built within
  have typed : reached.store.Types network.level.natives :=
    Network.types_of_build coherent built operations
  have sameLevel : reached.level = network.level := network.level_performAll operations
  rw [sameLevel]
  constructor
  · intro inside within head slot member
    obtain ⟨cell, found, bankTyped⟩ := typed _ (within.mem_natives member)
    obtain ⟨label, known⟩ := (linked inside within).known _ member
    refine ⟨cell.bank, ?_, bankTyped.honoured (coherent.declared label _ known)⟩
    rw [Store.bank?, found, Option.map_some]
  · intro after proc var fault failed
    have fits := Level.fits_program linked typed
    unfold Network.cycle at failed
    split at failed
    · cases failed
    · rename_i signals other result
      cases failed
      rw [sameLevel] at result
      exact Signals.outOfRange_of_run fits result

end

namespace Voices

/-- A class of constants, and a subnet around one. -/
def tables : List (List (String × Toml)) :=
  [[("classes", .table [Descriptions.number]),
    ("subnets", .table [("voice", .table [
      ("network", .table [("procs", .table [("inner", .table [("class", .string "number")])])]),
      ("vars", .table [("level", .table
        [("doc", .string ""), ("proxy", .string "inner.value")])])])])]]

def classes : ClassSet Builtin :=
  let inner : Template := ⟨[⟨"inner", "number", .empty, [], none, none, none⟩], []⟩
  ⟨[⟨"number",
      [⟨"value", "Value emitted every cycle.", some .double, .empty, some (.float 0), false, none⟩,
        ⟨"out", "Last emitted value.", some .double, .empty, none, false, none⟩],
      [], .plain Builtin.numberClass, none⟩,
    ⟨"voice",
      [⟨"level", "", some .double, .empty, some (.float 0), true, some ⟨"inner", "value"⟩⟩],
      [], .subnet inner, none⟩]⟩

/-- A constant that two voices read. -/
def template : Template :=
  ⟨[⟨"base", "number", .empty, [], none, none, none⟩,
    ⟨"voice", "voice", .empty, [⟨"level", "base.out"⟩], none, some 2, none⟩], []⟩

theorem finish_eq :
    ((Catalogue.empty Registry.builtin).addTables tables).finish = .ok classes :=
  (Catalogue.wellFormed_addTables Registry.builtin tables).1.finish_eq_ok.mpr
    ⟨Catalogue.resolveAll_of_resolveRound rfl, rfl⟩

end Voices

/-- The constant inside the second of two voices is typed after a cycle. -/
theorem voices_types_sound :
    ((Catalogue.empty Registry.builtin).addTables Voices.tables).finish = .ok Voices.classes ∧
      ∃ (network : Network Builtin) (inside : Level Builtin) (head : ProcHead Builtin),
        Network.build Voices.classes Voices.template .standard [] = .ok network ∧
          network.level.Within inside ∧ .native head 2 ∈ inside.procs ∧
            ∃ bank, (network.performAll [.set "base" "value" 0 (.int 3), .cycle]).store.bank? 2 =
                some bank ∧
              List.Forall₂ Declaration.Honoured head.description.vars bank.vars := by
  have built : Network.build Voices.classes Voices.template .standard [] = .ok _ := rfl
  obtain ⟨honours, -⟩ :=
    types_sound Voices.finish_eq built [.set "base" "value" 0 (.int 3), .cycle]
  rw [Network.level_performAll] at honours
  refine ⟨Voices.finish_eq, _, _, _, built,
    .inner (List.mem_of_getElem? (i := 2) rfl) rfl (.self _), List.mem_singleton_self _, ?_⟩
  refine honours _ (.inner (List.mem_of_getElem? (i := 2) rfl) rfl (.self _)) _ 2 ?_
  exact List.mem_singleton_self _

end SignalNet
