import SignalNet.Proofs.Network.Confluence
import SignalNet.Proofs.Network.Journal
import SignalNet.Proofs.Network.Places

/-!
Contract: data flows within a cycle.

When a proc is stepped, its connected variables hold what their sources hold at the end
of the same cycle, converted to the type of the place. This needs that a source is done
before the proc that reads it is fed, and that nothing touches the source afterwards.

Owns: the effect of the copies into a proc, what a fed proc finds (`Level.Fed`), and the
law of completed cycles (`cycle_dataflow`).
-/

set_option autoImplicit false

namespace SignalNet

variable {P : Type}

/-- The instruction that carries out a connection of a proc. -/
def Proc.copyOf (proc : Proc P) (procs : List (Proc P)) (connection : Connection) : Instruction :=
  .copy proc.label (proc.variableLabel connection.destination)
    (terminalsAt procs connection.sourceProc connection.sourceVariable)
    (proc.terminals connection.destination)

theorem Proc.copies_eq_map (proc : Proc P) (procs : List (Proc P)) :
    proc.copies procs = proc.head.inputs.map (proc.copyOf procs) :=
  rfl

namespace Signals

variable [Processor P] {before after : Signals P} {status : StepStatus}

/-! ## What runs leave alone -/

theorem Completes.channels_eq {program : List Instruction}
    (completes : Completes program before after status) {terminals : List Terminal}
    (settled : ∀ instruction ∈ program, ∀ terminal ∈ terminals,
      terminal.slot ∉ instruction.changed) :
    after.store.channels terminals = before.store.channels terminals := by
  have agreement : Store.AgreeOn (terminals.map (·.slot)) after.store before.store := by
    intro slot member
    obtain ⟨terminal, isTerminal, rfl⟩ := List.mem_map.mp member
    exact completes.unchanged fun instruction inProgram =>
      settled instruction inProgram terminal isTerminal
  exact agreement.channels fun terminal member => List.mem_map_of_mem member

theorem place?_type_perform (before : Signals P)
    {instruction : Instruction} (terminal : Terminal)
    (notStepped : instruction.stepped? ≠ some terminal.slot) (ch : Nat) :
    ((before.perform instruction).1.store.place? terminal ch).map Value.type =
      (before.store.place? terminal ch).map Value.type := by
  cases instruction with
  | copy proc var source destination =>
      exact (Store.written_writeChannels destination 0 (before.store.channels source)
        before.store).place?_type terminal ch
  | step proc className slot device =>
      have outside : terminal.slot ∉ (Instruction.step proc className slot device).changed := by
        intro member
        exact notStepped (congrArg some (List.mem_singleton.mp member).symm)
      rw [Store.place?_congr (perform_unchanged before _ outside)]

theorem Completes.place?_type {program : List Instruction}
    (completes : Completes program before after status) (terminal : Terminal)
    (notStepped : ∀ instruction ∈ program, instruction.stepped? ≠ some terminal.slot) (ch : Nat) :
    (after.store.place? terminal ch).map Value.type =
      (before.store.place? terminal ch).map Value.type := by
  induction program generalizing before status with
  | nil =>
      obtain ⟨rfl, -⟩ := completes_nil.mp completes
      rfl
  | cons instruction rest inductionHypothesis =>
      obtain ⟨middle, head, further, performed, others, -⟩ := completes_cons.mp completes
      have first := place?_type_perform before terminal
        (notStepped instruction List.mem_cons_self) ch
      rw [performed] at first
      exact (inductionHypothesis others fun other member =>
        notStepped other (List.mem_cons_of_mem _ member)).trans first

/-! ## What copies do -/

section

variable {proc : Proc P} {procs : List (Proc P)} {connection : Connection} {terminal : Terminal}
  {ch : Nat}

theorem writeChannels_of_copyOf
    (performed : before.perform (proc.copyOf procs connection) = (after, .ok status)) :
    before.store.writeChannels (proc.terminals connection.destination) 0
      (before.store.channels
        (terminalsAt procs connection.sourceProc connection.sourceVariable)) =
          (after.store, .ok ()) := by
  obtain ⟨sameSignals, outcome⟩ := Prod.mk.inj performed
  obtain ⟨⟨⟩, written, -⟩ := map_eq_ok.mp (mapError_eq_ok.mp outcome)
  subst sameSignals
  exact Prod.ext rfl written

theorem place?_of_copyOf
    (performed : before.perform (proc.copyOf procs connection) = (after, .ok status))
    (member : terminal ∈ proc.terminals connection.destination) {place value : Value}
    (present : before.store.place? terminal ch = some place)
    (given : before.store.value?
      (terminalsAt procs connection.sourceProc connection.sourceVariable) ch = some value) :
    ∃ held, after.store.place? terminal ch = some held ∧
      value.convert place.type = .ok held := by
  have written := writeChannels_of_copyOf performed
  rw [← Nat.zero_add ch] at present ⊢
  exact Store.place?_writeChannels written member given present

/-- A connection leaves a place alone if it does not reach the place, or if its source
does not have the channel. -/
theorem place?_unchanged_of_copyOf
    (performed : before.perform (proc.copyOf procs connection) = (after, .ok status))
    (skipped : terminal ∈ proc.terminals connection.destination →
      before.store.value?
        (terminalsAt procs connection.sourceProc connection.sourceVariable) ch = none) :
    after.store.place? terminal ch = before.store.place? terminal ch := by
  have written := writeChannels_of_copyOf performed
  by_cases member : terminal ∈ proc.terminals connection.destination
  · have behind := List.getElem?_eq_none_iff.mp (skipped member)
    rw [← Nat.zero_add (List.length _)] at behind
    have untouched := Store.place?_writeChannels_outside (proc.terminals connection.destination)
      (before.store.channels (terminalsAt procs connection.sourceProc connection.sourceVariable))
      before.store terminal (.inr behind)
    rwa [written] at untouched
  · have assigned := Store.written_writeChannels (proc.terminals connection.destination) 0
      (before.store.channels (terminalsAt procs connection.sourceProc connection.sourceVariable))
      before.store
    rw [written] at assigned
    exact assigned.place?_unchanged member ch

theorem place?_unchanged_of_copies {connections : List Connection}
    (completes : Completes (connections.map (proc.copyOf procs)) before after status)
    (settled : ∀ source ∈ connections, ∀ instruction ∈ connections.map (proc.copyOf procs),
      ∀ read ∈ terminalsAt procs source.sourceProc source.sourceVariable,
        read.slot ∉ instruction.changed)
    (skipped : ∀ other ∈ connections, terminal ∈ proc.terminals other.destination →
      after.store.value? (terminalsAt procs other.sourceProc other.sourceVariable) ch = none) :
    after.store.place? terminal ch = before.store.place? terminal ch := by
  induction connections generalizing before status with
  | nil =>
      obtain ⟨rfl, -⟩ := completes_nil.mp completes
      rfl
  | cons connection rest inductionHypothesis =>
      have sameSource := completes.channels_eq (settled connection List.mem_cons_self)
      rw [List.map_cons] at completes
      obtain ⟨middle, head, further, performed, others, -⟩ := completes_cons.mp completes
      rw [inductionHypothesis others]
      · refine place?_unchanged_of_copyOf performed fun member => ?_
        rw [Store.value?, ← sameSource]
        exact skipped connection List.mem_cons_self member
      · intro source member instruction inRest
        exact settled source (List.mem_cons_of_mem _ member) instruction
          (List.mem_cons_of_mem _ inRest)
      · intro other member
        exact skipped other (List.mem_cons_of_mem _ member)

end

end Signals

/-! ## Fed procs -/

/-- What a proc finds when it is stepped: every channel that a connected variable had in
`start`, that its source has in `final`, and that no later connection of the proc feeds,
holds in `found` the value of the source in `final`, converted to the type of the place. -/
def Level.Fed (level : Level P) (proc : Proc P) (start found final : Store P) : Prop :=
  ∀ earlier connection later, proc.head.inputs = earlier ++ connection :: later →
    ∀ terminal ∈ proc.terminals connection.destination, ∀ ch place value,
      start.place? terminal ch = some place →
      final.value? (level.terminals connection.sourceProc connection.sourceVariable) ch =
        some value →
      (∀ other ∈ later, terminal ∈ proc.terminals other.destination →
        final.value? (level.terminals other.sourceProc other.sourceVariable) ch = none) →
      ∃ held, found.place? terminal ch = some held ∧ value.convert place.type = .ok held

namespace Level.Cut

variable {level inner : Level P} {before opening rest : List Instruction} {position : Nat}
  {proc : Proc P}

theorem source_settled (cut : level.Cut before inner position proc opening rest)
    (found : inner.procs[position]? = some proc) {connection : Connection}
    (isInput : connection ∈ proc.head.inputs) {instruction : Instruction}
    (member : instruction ∈ proc.copies inner.procs ++ (proc.program ++ rest)) {read : Terminal}
    (reads : read ∈ terminalsAt inner.procs connection.sourceProc connection.sourceVariable) :
    read.slot ∉ instruction.changed := by
  intro changed
  obtain ⟨other, otherFound, inside⟩ := mem_terminalsAt.mp reads
  have isSource : connection.sourceProc ∈ sourcesAt inner.sources position := by
    rw [Level.sourcesAt_of_getElem? found]
    exact List.mem_map_of_mem isInput
  exact cut.settled _ isSource other otherFound instruction member read.slot changed
    (Proc.slot_mem_of_terminal inside)

variable [Processor P] {moment final : Signals P} {status : StepStatus}

/-- From its copies on a source of a proc already has its last value. -/
theorem source_eq (cut : level.Cut before inner position proc opening rest)
    (found : inner.procs[position]? = some proc) {connection : Connection}
    (isInput : connection ∈ proc.head.inputs) {tail : List Instruction}
    (part : ∀ instruction ∈ tail,
      instruction ∈ proc.copies inner.procs ++ (proc.program ++ rest))
    (completes : Signals.Completes tail moment final status) (ch : Nat) :
    final.store.value? (inner.terminals connection.sourceProc connection.sourceVariable) ch =
      moment.store.value? (inner.terminals connection.sourceProc connection.sourceVariable) ch := by
  have same := completes.channels_eq fun instruction member read reads =>
    cut.source_settled found isInput (part instruction member) reads
  exact congrArg (fun channels => channels[ch]?) same

theorem place_kept (cut : level.Cut before inner position proc opening rest)
    (visit : level.Visit before inner position) (found : inner.procs[position]? = some proc)
    (nodup : level.slots.Nodup) (ordered : level.Ordered) {front : List Instruction}
    (part : ∀ instruction ∈ front, instruction ∈ before)
    (completes : Signals.Completes front moment final status) {terminal : Terminal}
    (own : terminal.slot ∈ proc.slots) {ch : Nat} {place : Value}
    (present : moment.store.place? terminal ch = some place) :
    ∃ old, final.store.place? terminal ch = some old ∧ old.type = place.type := by
  have sameType := completes.place?_type terminal (fun instruction member =>
    cut.not_stepped visit found nodup ordered (part instruction member) own) ch
  rw [present, Option.map_some, Option.map_eq_some_iff] at sameType
  exact sameType

end Level.Cut

variable [Processor P]

/-- At its visit in a completed cycle every proc is fed. -/
theorem Level.Visit.fed {level inner : Level P} {before : List Instruction} {position : Nat}
    {proc : Proc P} (visit : level.Visit before inner position) (nodup : level.slots.Nodup)
    (ordered : level.Ordered) (found : inner.procs[position]? = some proc)
    {start final : Signals P} {status : StepStatus}
    (completes : Signals.Completes level.program start final status) :
    ∃ moment early late rest, level.program = before ++ (proc.program ++ rest) ∧
      Signals.Completes before start moment early ∧
      Signals.Completes (proc.program ++ rest) moment final late ∧
      inner.Fed proc start.store moment.store final.store := by
  obtain ⟨opening, rest, cut⟩ := visit.exists_cut nodup ordered found
  have split : level.program = before ++ (proc.program ++ rest) := by
    rw [cut.program_eq, cut.before_eq, List.append_assoc]
  rw [split] at completes
  obtain ⟨moment, early, late, atBefore, atRest, -⟩ := Signals.completes_append.mp completes
  refine ⟨moment, early, late, rest, split, atBefore, atRest, ?_⟩
  intro earlier connection later inputs terminal member ch place value present given skipped
  -- the run is cut at the copy of the connection
  have copies : proc.copies inner.procs = earlier.map (proc.copyOf inner.procs) ++
      (proc.copyOf inner.procs connection :: later.map (proc.copyOf inner.procs)) := by
    rw [Proc.copies_eq_map, inputs, List.map_append, List.map_cons]
  have before_eq : before = (opening ++ earlier.map (proc.copyOf inner.procs)) ++
      (proc.copyOf inner.procs connection :: later.map (proc.copyOf inner.procs)) := by
    rw [cut.before_eq, copies, List.append_assoc]
  have arrival := atBefore
  rw [before_eq] at arrival
  obtain ⟨ready, _, fromCopy, atReady, atCopy, -⟩ := Signals.completes_append.mp arrival
  obtain ⟨copied, _, _, performed, atLater, -⟩ := Signals.completes_cons.mp atCopy
  have isInput : ∀ input ∈ connection :: later, input ∈ proc.head.inputs := fun input listed =>
    inputs ▸ List.mem_append_right _ listed
  have inCopies : ∀ instruction ∈
      proc.copyOf inner.procs connection :: later.map (proc.copyOf inner.procs),
        instruction ∈ proc.copies inner.procs := fun instruction behind =>
    copies ▸ List.mem_append_right _ behind
  obtain ⟨old, oldPresent, oldType⟩ := cut.place_kept visit found nodup ordered
    (fun instruction inFront => before_eq ▸ List.mem_append_left _ inFront) atReady
    (Proc.slot_mem_of_terminal member) present
  have givenAtCopy : ready.store.value?
      (inner.terminals connection.sourceProc connection.sourceVariable) ch = some value := by
    rw [← given]
    refine (cut.source_eq found (isInput _ List.mem_cons_self) ?_
      (Signals.completes_append.mpr ⟨moment, fromCopy, late, atCopy, atRest, rfl⟩) ch).symm
    intro instruction inRun
    rcases List.mem_append.mp inRun with inFront | behind
    · exact List.mem_append_left _ (inCopies instruction inFront)
    · exact List.mem_append_right _ behind
  obtain ⟨held, heldThere, converted⟩ :=
    Signals.place?_of_copyOf performed member oldPresent givenAtCopy
  have kept : moment.store.place? terminal ch = copied.store.place? terminal ch := by
    refine Signals.place?_unchanged_of_copies atLater ?_ ?_
    · intro source listed instruction inLater read reads
      exact cut.source_settled found (isInput _ (List.mem_cons_of_mem _ listed))
        (List.mem_append_left _ (inCopies _ (List.mem_cons_of_mem _ inLater))) reads
    · intro other listed reaches
      have same := cut.source_eq found (isInput _ (List.mem_cons_of_mem _ listed))
        (fun instruction inRun => List.mem_append_right _ inRun) atRest ch
      exact same.symm.trans (skipped other listed reaches)
  exact ⟨held, kept.trans heldThere, oldType ▸ converted⟩

/-! ## Completed cycles -/

namespace Network

def journal (network : Network P) : List (StepRecord P) :=
  network.signals.journal network.level.program

theorem completes_of_cycle {before after : Network P} {status : StepStatus}
    (completed : before.cycle = (after, .ok status)) :
    ∃ final, Signals.Completes before.level.program before.signals final status ∧
      after.store = final.store ∧ after.cycleIndex = before.cycleIndex + 1 := by
  unfold cycle at completed
  split at completed
  · rename_i final reported result
    cases completed
    exact ⟨final, result, rfl, rfl⟩
  · cases completed

end Network

/-- Every completed cycle of a built network, from every state that operations lead to:
each native proc is stepped once; every proc at every depth, when it is stepped, finds its
connections fed from the values that their sources have at the end of the cycle; the end
of the stream is announced exactly if a step announced it; and the cycle counts. -/
theorem cycle_dataflow {classes : ClassSet P} {template : Template} {timing : Timing}
    {devices : List Device} {network : Network P}
    (built : Network.build classes template timing devices = .ok network)
    (operations : List Operation) {before after : Network P} {status : StepStatus}
    (reached : network.performAll operations = before)
    (completed : before.cycle = (after, .ok status)) :
    (before.journal.map (·.slot)).Perm network.level.slots ∧ network.level.slots.Nodup ∧
      (∀ inner, network.level.Within inner → ∀ position proc,
        inner.procs[position]? = some proc →
          (∃ instructions, network.level.Visit instructions inner position) ∧
          ∀ instructions, network.level.Visit instructions inner position →
            ∃ moment early,
              Signals.Completes instructions before.signals moment early ∧
              (∀ head slot, proc = .native head slot →
                ∃ record ∈ before.journal, record.slot = slot ∧ record.found = moment) ∧
              inner.Fed proc before.store moment.store after.store) ∧
      (status = .endOfStream ↔
        ∃ record ∈ before.journal, record.outcome = .ok .endOfStream) ∧
      after.cycleIndex = before.cycleIndex + 1 := by
  subst reached
  have ordered := Build.ordered_of_build built
  have slotsEq := Build.slots_of_build built
  have nodup := Build.nodup_slots_of_build built (.self network.level)
  have sameLevel := network.level_performAll operations
  have sameLength : (network.performAll operations).store.length = network.store.length :=
    network.length_performAll operations
  obtain ⟨final, completes, afterStore, counted⟩ := Network.completes_of_cycle completed
  rw [sameLevel] at completes
  have stepped := ordered.steppedBy_perm
  have present : ∀ slot ∈ steppedBy network.level.program,
      slot < (network.performAll operations).signals.store.length := by
    intro slot member
    have inSlots := stepped.mem_iff.mp member
    rw [slotsEq, List.mem_range] at inSlots
    exact sameLength ▸ inSlots
  refine ⟨?_, nodup, ?_, ?_, counted⟩
  · rw [Network.journal, sameLevel, Signals.slots_journal completes present]
    exact stepped
  · intro inner within position proc found
    refine ⟨Level.exists_visit ordered within (List.getElem?_eq_some_iff.mp found).1, ?_⟩
    intro instructions visit
    obtain ⟨moment, early, late, rest, split, atBefore, atRest, fed⟩ :=
      visit.fed nodup ordered found completes
    refine ⟨moment, early, atBefore, ?_, afterStore ▸ fed⟩
    rintro head slot rfl
    have inSlots : slot ∈ inner.slots :=
      mem_slotsOf.mpr ⟨_, List.mem_of_getElem? found, List.mem_singleton_self slot⟩
    rw [Network.journal, sameLevel, split]
    exact Signals.exists_record atBefore
      (present slot (stepped.mem_iff.mpr (within.slots_sublist.subset inSlots)))
  · rw [Network.journal, sameLevel]
    exact Signals.endOfStream_iff_journal completes

/-- The second cycle of a small network steps each of its three procs once, and counts. -/
theorem fork_dataflow : ∃ network : Network Builtin,
    Network.build Build.constants Build.fork .standard [] = .ok network ∧
      let before := network.performAll [.cycle]
      before.cycle.2 = .ok .proceed ∧
        (before.journal.map (·.slot)).Perm [0, 1, 2] ∧ before.cycle.1.cycleIndex = 2 := by
  have built : Network.build Build.constants Build.fork .standard [] = .ok _ := rfl
  refine ⟨_, built, ?_⟩
  intro before
  have proceeds : before.cycle.2 = .ok .proceed := rfl
  have completed : before.cycle = (before.cycle.1, .ok .proceed) := Prod.ext rfl proceeds
  obtain ⟨stepped, -, -, -, counted⟩ := cycle_dataflow built [.cycle] rfl completed
  exact ⟨proceeds, stepped, counted⟩

end SignalNet
