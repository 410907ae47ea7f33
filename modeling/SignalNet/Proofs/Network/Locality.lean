import SignalNet.Proofs.Network.ExecutionOrder
import SignalNet.Proofs.Network.Footprint

/-!
Contract: where the parts of a cycle act.

The part of a cycle that belongs to one proc changes only the cells and devices of that
proc, and apart from these it reads only cells of the procs that it is connected to.

Owns: these bounds for the program of a proc and for the block of a position in a level.
-/

set_option autoImplicit false

namespace SignalNet

variable {P : Type}

theorem Instruction.touched_of_changed {instruction : Instruction} {slot : Nat}
    (member : slot ∈ instruction.changed) : slot ∈ instruction.touched := by
  cases instruction with
  | copy proc var source destination => exact List.mem_append_right _ member
  | step proc className stepped device => exact member

/-! ## Connections -/

section

variable {procs : List (Proc P)} {proc : Proc P} {instruction : Instruction} {slot : Nat}

theorem Proc.changed_copies (copied : instruction ∈ proc.copies procs)
    (member : slot ∈ instruction.changed) : slot ∈ proc.slots := by
  obtain ⟨connection, -, rfl⟩ := List.mem_map.mp copied
  obtain ⟨terminal, reached, rfl⟩ := List.mem_map.mp member
  exact Proc.slot_mem_of_terminal reached

theorem Proc.touched_copies (copied : instruction ∈ proc.copies procs)
    (member : slot ∈ instruction.touched) :
    slot ∈ proc.slots ∨ ∃ source ∈ proc.head.inputs.map (·.sourceProc),
      ∃ other, procs[source]? = some other ∧ slot ∈ other.slots := by
  obtain ⟨connection, isInput, rfl⟩ := List.mem_map.mp copied
  rcases List.mem_append.mp member with read | written
  · obtain ⟨terminal, reached, rfl⟩ := List.mem_map.mp read
    obtain ⟨other, found, inside⟩ := mem_terminalsAt.mp reached
    exact .inr ⟨_, List.mem_map_of_mem isInput, other, found, Proc.slot_mem_of_terminal inside⟩
  · obtain ⟨terminal, reached, rfl⟩ := List.mem_map.mp written
    exact .inl (Proc.slot_mem_of_terminal reached)

theorem Proc.devices_copies (copied : instruction ∈ proc.copies procs) :
    instruction.devices = [] := by
  obtain ⟨connection, -, rfl⟩ := List.mem_map.mp copied
  rfl

end

/-! ## Blocks -/

/-- An instruction of a block is a copy into the proc at that position, or one that the
proc itself contributes. -/
theorem Level.mem_block {level : Level P} {position : Nat} {instruction : Instruction}
    (member : instruction ∈ level.block position) :
    ∃ proc, level.procs[position]? = some proc ∧
      (instruction ∈ proc.copies level.procs ∨ instruction ∈ proc.program) := by
  cases found : level.procs[position]? with
  | none => simp [Level.block, copiesAt, found] at member
  | some proc =>
      rw [Level.block_of_getElem? found] at member
      exact ⟨proc, rfl, List.mem_append.mp member⟩

theorem Level.mem_program {level : Level P} {instruction : Instruction}
    (member : instruction ∈ level.program) :
    ∃ position ∈ level.order, instruction ∈ level.block position := by
  rw [Level.program_eq_flatMap] at member
  exact List.mem_flatMap.mp member

theorem Proc.mem_program_subnet {head : ProcHead P} {procs : List (Proc P)} {order : List Nat}
    {presets : List NetworkPreset} {forwards : List (List (Nat × Nat))}
    {instruction : Instruction}
    (member : instruction ∈ (Proc.subnet head procs order presets forwards).program) :
    ∃ (position : Nat) (inner : Proc P), procs[position]? = some inner ∧
      (instruction ∈ inner.copies procs ∨ instruction ∈ inner.program) := by
  obtain ⟨position, -, inBlock⟩ := @Level.mem_program P ⟨procs, order, presets⟩ instruction member
  obtain ⟨inner, found, kinds⟩ := Level.mem_block inBlock
  exact ⟨position, inner, found, kinds⟩

theorem Proc.touched_program {proc : Proc P} {instruction : Instruction}
    (member : instruction ∈ proc.program) {slot : Nat} (touched : slot ∈ instruction.touched) :
    slot ∈ proc.slots := by
  induction proc generalizing instruction with
  | native head own =>
      rw [Proc.program, List.mem_singleton] at member
      rw [member] at touched
      rw [Proc.slots]
      exact touched
  | subnet head procs order presets forwards inductionHypothesis =>
      obtain ⟨position, inner, found, copied | stepped⟩ := Proc.mem_program_subnet member
      · rw [Proc.slots]
        rcases inner.touched_copies copied touched with own | ⟨source, -, other, there, reached⟩
        · exact mem_slotsOf.mpr ⟨inner, List.mem_of_getElem? found, own⟩
        · exact mem_slotsOf.mpr ⟨other, List.mem_of_getElem? there, reached⟩
      · have innerMember := List.mem_of_getElem? found
        rw [Proc.slots]
        exact mem_slotsOf.mpr
          ⟨inner, innerMember, inductionHypothesis inner innerMember stepped touched⟩

theorem Proc.devices_program {proc : Proc P} {instruction : Instruction}
    (member : instruction ∈ proc.program) {device : Nat}
    (named : device ∈ instruction.devices) : device ∈ proc.devices := by
  induction proc generalizing instruction with
  | native head own =>
      rw [Proc.program, List.mem_singleton] at member
      rw [member] at named
      rw [Proc.devices]
      exact named
  | subnet head procs order presets forwards inductionHypothesis =>
      obtain ⟨position, inner, found, copied | stepped⟩ := Proc.mem_program_subnet member
      · rw [inner.devices_copies copied] at named
        exact absurd named List.not_mem_nil
      · have innerMember := List.mem_of_getElem? found
        rw [Proc.devices]
        exact mem_devicesOf.mpr
          ⟨inner, innerMember, inductionHypothesis inner innerMember stepped named⟩

namespace Level

variable {level : Level P} {position : Nat} {proc : Proc P} {instruction : Instruction}

theorem sourcesAt_of_getElem? (found : level.procs[position]? = some proc) :
    sourcesAt level.sources position = proc.head.inputs.map (·.sourceProc) := by
  rw [sourcesAt, Level.sources, List.getElem?_map, found, Option.map_some, Option.getD_some]

theorem changed_block (found : level.procs[position]? = some proc)
    (member : instruction ∈ level.block position) {slot : Nat}
    (changed : slot ∈ instruction.changed) : slot ∈ proc.slots := by
  rw [block_of_getElem? found] at member
  rcases List.mem_append.mp member with copied | stepped
  · exact proc.changed_copies copied changed
  · exact proc.touched_program stepped (Instruction.touched_of_changed changed)

/-- A block reads cells of the proc at its position and of the sources of that proc. -/
theorem touched_block (found : level.procs[position]? = some proc)
    (member : instruction ∈ level.block position) {slot : Nat}
    (touched : slot ∈ instruction.touched) :
    slot ∈ proc.slots ∨ ∃ source ∈ sourcesAt level.sources position,
      ∃ other, level.procs[source]? = some other ∧ slot ∈ other.slots := by
  rw [sourcesAt_of_getElem? found]
  rw [block_of_getElem? found] at member
  rcases List.mem_append.mp member with copied | stepped
  · exact proc.touched_copies copied touched
  · exact .inl (proc.touched_program stepped touched)

theorem devices_block (found : level.procs[position]? = some proc)
    (member : instruction ∈ level.block position) {device : Nat}
    (named : device ∈ instruction.devices) : device ∈ proc.devices := by
  rw [block_of_getElem? found] at member
  rcases List.mem_append.mp member with copied | stepped
  · rw [proc.devices_copies copied] at named
    exact absurd named List.not_mem_nil
  · exact proc.devices_program stepped named

end Level

end SignalNet
