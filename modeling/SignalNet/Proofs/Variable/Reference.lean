import SignalNet.Variable.Reference

/-!
Contract: written references are read back, and no other text is read as a reference.

A reference can be written if both of its labels are there and the label of the proc has no period.
The first period of the text then ends the label of the proc, and all later ones belong to the label
of the variable. Reading looks at the first period only, so it inverts writing on exactly these
references, and refuses every text that none of them is written as.

Owns: the references that can be written (`VarRef.Writable`), and what is wrong with a text that is
refused (`RefError.Faults`).
-/

set_option autoImplicit false

namespace SignalNet

/-- A reference that can be written: no label is missing, and the proc is found again. -/
structure VarRef.Writable (reference : VarRef) : Prop where
  proc_ne_empty : reference.proc ≠ ""
  no_period : '.' ∉ reference.proc.toList
  var_ne_empty : reference.var ≠ ""

/-- What is wrong with a text. A text with periods is written with labels of which one is missing:
the first one, or else the second. -/
def RefError.Faults (text : String) : RefError → Prop
  | .noPeriod => '.' ∉ text.toList
  | .emptyProc => ∃ var, (VarRef.mk "" var).display = text
  | .emptyVariable =>
      ∃ proc, proc ≠ "" ∧ '.' ∉ proc.toList ∧ (VarRef.mk proc "").display = text

namespace VarRef

/-! ## The first period -/

theorem splitPeriod_eq_none {text : List Char} (noPeriod : '.' ∉ text) :
    splitPeriod text = none := by
  induction text with
  | nil => rfl
  | cons c rest inductionHypothesis =>
      simp only [List.mem_cons, not_or] at noPeriod
      simp [splitPeriod, Ne.symm noPeriod.1, inductionHypothesis noPeriod.2]

/-- A part without a period is split off at the period behind it, whatever follows. -/
theorem splitPeriod_append {before : List Char} (noPeriod : '.' ∉ before) (after : List Char) :
    splitPeriod (before ++ '.' :: after) = some (before, after) := by
  induction before with
  | nil => simp [splitPeriod]
  | cons c rest inductionHypothesis =>
      simp only [List.mem_cons, not_or] at noPeriod
      simp [splitPeriod, Ne.symm noPeriod.1, inductionHypothesis noPeriod.2]

theorem toList_display (reference : VarRef) :
    reference.display.toList = reference.proc.toList ++ '.' :: reference.var.toList := by
  simp [display]

/-- A text with a period is written with the labels before and behind the first one. -/
theorem exists_display_eq {text : String} (period : '.' ∈ text.toList) :
    ∃ reference : VarRef, '.' ∉ reference.proc.toList ∧ reference.display = text := by
  obtain ⟨before, after, joined, noPeriod⟩ := List.eq_append_cons_of_mem period
  refine ⟨⟨String.ofList before, String.ofList after⟩, by simpa using noPeriod, ?_⟩
  apply String.toList_inj.mp
  rw [toList_display, joined]
  simp

/-! ## Reading -/

theorem parse_eq_noPeriod {text : String} (noPeriod : '.' ∉ text.toList) :
    parse text = .error .noPeriod := by
  simp [parse, splitPeriod_eq_none noPeriod]

/-- A text finds the labels again that it is written with, and then they only have to be there. -/
theorem parse_display {reference : VarRef} (noPeriod : '.' ∉ reference.proc.toList) :
    parse reference.display =
      if reference.proc = "" then .error .emptyProc
      else if reference.var = "" then .error .emptyVariable
      else .ok reference := by
  have found : splitPeriod reference.display.toList =
      some (reference.proc.toList, reference.var.toList) := by
    rw [toList_display]
    exact splitPeriod_append noPeriod _
  rw [parse, found]
  obtain ⟨proc, var⟩ := reference
  by_cases procMissing : proc = "" <;> by_cases varMissing : var = "" <;>
    simp [procMissing, varMissing]

/-- A text is read as a reference exactly if the reference can be written, and is written so. -/
theorem parse_eq_ok_iff {text : String} {reference : VarRef} :
    parse text = .ok reference ↔ reference.Writable ∧ reference.display = text := by
  constructor
  · intro read
    by_cases period : '.' ∈ text.toList
    · obtain ⟨written, noPeriod, rfl⟩ := exists_display_eq period
      rw [parse_display noPeriod] at read
      by_cases procMissing : written.proc = ""
      · simp [procMissing] at read
      · by_cases varMissing : written.var = ""
        · simp [procMissing, varMissing] at read
        · simp only [procMissing, varMissing, if_false, Except.ok.injEq] at read
          exact read ▸ ⟨⟨procMissing, noPeriod, varMissing⟩, rfl⟩
    · simp [parse_eq_noPeriod period] at read
  · rintro ⟨writable, rfl⟩
    simp [parse_display writable.no_period, writable.proc_ne_empty, writable.var_ne_empty]

/-- A text is refused for what is wrong with it. -/
theorem parse_eq_error_iff {text : String} {fault : RefError} :
    parse text = .error fault ↔ fault.Faults text := by
  constructor
  · intro refused
    by_cases period : '.' ∈ text.toList
    · obtain ⟨⟨proc, var⟩, noPeriod, rfl⟩ := exists_display_eq period
      rw [parse_display noPeriod] at refused
      by_cases procMissing : proc = ""
      · simp only [procMissing, if_true, Except.error.injEq] at refused
        exact refused ▸ ⟨var, by rw [procMissing]⟩
      · by_cases varMissing : var = ""
        · simp only [procMissing, varMissing, if_false, if_true, Except.error.injEq] at refused
          exact refused ▸ ⟨proc, procMissing, noPeriod, by rw [varMissing]⟩
        · simp [procMissing, varMissing] at refused
    · rw [parse_eq_noPeriod period, Except.error.injEq] at refused
      exact refused ▸ period
  · cases fault with
    | noPeriod => exact parse_eq_noPeriod
    | emptyProc =>
        rintro ⟨var, rfl⟩
        simp [parse_display]
    | emptyVariable =>
        rintro ⟨proc, procThere, noPeriod, rfl⟩
        rw [parse_display noPeriod]
        simp [procThere]

/-- Reading and writing references are inverse: a text is read as a reference exactly if the
reference can be written and displays as the text, so a reference that can be written is read back
from its display. All other texts are refused, each for what is wrong with it. -/
theorem references_round_trip (text : String) :
    (∀ reference, parse text = .ok reference ↔
      reference.Writable ∧ reference.display = text) ∧
    ((∃ fault, parse text = .error fault) ↔
      ¬ ∃ reference : VarRef, reference.Writable ∧ reference.display = text) ∧
    ∀ fault, parse text = .error fault ↔ fault.Faults text := by
  refine ⟨fun reference => parse_eq_ok_iff, ?_, fun fault => parse_eq_error_iff⟩
  constructor
  · rintro ⟨fault, refused⟩ ⟨reference, written⟩
    simp [parse_eq_ok_iff.mpr written] at refused
  · intro unwritten
    cases read : parse text with
    | error fault => exact ⟨fault, rfl⟩
    | ok reference => exact absurd ⟨reference, parse_eq_ok_iff.mp read⟩ unwritten

/-- Periods behind the first one belong to the label of the variable. -/
example : parse "osc.freq.hz" = .ok ⟨"osc", "freq.hz"⟩ := by rfl

end VarRef

end SignalNet
