import SignalNet.Preset.Apply
import SignalNet.Proofs.Network.Places
import SignalNet.Proofs.Network.Replicas
import SignalNet.Proofs.Network.TypeSoundness

/-!
Contract: presets touch nothing but what they are for.

An application assigns to the variables that a resolved body mentions, in the procs that are
meant. A variable of a subnet leads to variables of native procs inside it, so these change as
well. Where one voice is meant, all of them are inside that voice, whatever subnets they
are in: numbers are handed down, and a cell belongs to one native proc.

Owns: what it means that presets mention a variable (`Blend.Mentions`), and the law of
isolation (`presets_isolated`).
-/

set_option autoImplicit false

namespace SignalNet

variable {P : Type}

namespace Blend

/-- One of the presets resolves for a proc to a body that mentions a variable. -/
def Mentions (site : Site P) (weights : Weights) (label : String) : Prop :=
  ∃ preset ∈ weights.map (·.1), ∃ values,
    body site preset = .ok (some values) ∧ label ∈ values.labels

theorem mentions_of_mem_mentionedLabels {site : Site P} {weights : Weights} {label : String}
    (member : label ∈ mentionedLabels (bodies site weights)) : Mentions site weights label := by
  rw [mentionedLabels, List.mem_eraseDups, List.mem_flatMap] at member
  obtain ⟨values, isBody, mentioned⟩ := member
  obtain ⟨⟨body?, weight⟩, ofPreset, resolved⟩ := List.mem_filterMap.mp isBody
  obtain ⟨⟨preset, _⟩, listed, same⟩ := List.mem_map.mp ofPreset
  obtain ⟨isBody?, -⟩ := Prod.mk.inj same
  refine ⟨preset, List.mem_map_of_mem listed, values, ?_, mentioned⟩
  dsimp only at resolved
  rw [← isBody?] at resolved
  cases outcome : body site preset with
  | error fault =>
      rw [outcome] at resolved
      cases resolved
  | ok values? =>
      rw [outcome] at resolved
      exact congrArg Except.ok resolved

variable [Processor P]

/-- What an application of presets leaves behind is assigned to variables that they mention. -/
theorem written_applyWeights (network : Network P) (weights : Weights) (replica : Option Nat)
    (name : String) :
    Store.Written (Reached weights replica network.level.sites) network.store
      (network.applyWeights weights replica name).1.store := by
  unfold Network.applyWeights
  split
  · exact .refl
  · exact written_applySites weights replica network.level.sites network.store

end Blend

variable [Processor P] {classes : ClassSet P} {template : Template} {timing : Timing}
  {devices : List Device} {network : Network P}

/-- In every state of every built network, an application of weighted presets changes a channel
of a native variable only if a proc that is meant has a variable that leads there, through any
number of subnets, and one of the presets resolves for this proc to a body that mentions the
variable. Where one voice is meant, every native proc of which anything changes has the number
of that voice: no other voice is touched, and nothing outside voices. -/
theorem presets_isolated
    (built : Network.build classes template timing devices = .ok network)
    (operations : List Operation) (weights : Weights) (replica : Option Nat) (name : String) :
    let reached := network.performAll operations
    let after := (reached.applyWeights weights replica name).1
    (∀ terminal ch, after.store.place? terminal ch ≠ reached.store.place? terminal ch →
        ∃ site ∈ reached.level.sites, Blend.targets replica site = true ∧
          ∃ label var head, Blend.Mentions site weights label ∧
            site.proc.variableIndex? label = some var ∧ site.proc.Reaches var head terminal) ∧
      ∀ number, replica = some number → ∀ inside, reached.level.Within inside →
        ∀ head slot, .native head slot ∈ inside.procs →
          after.store[slot]? ≠ reached.store[slot]? → head.replica = some number := by
  intro reached after
  have written := Blend.written_applyWeights reached weights replica name
  have ways : ∀ terminal, Blend.Reached weights replica reached.level.sites terminal →
      ∃ site ∈ reached.level.sites, Blend.targets replica site = true ∧
        ∃ label var head, Blend.Mentions site weights label ∧
          site.proc.variableIndex? label = some var ∧ site.proc.Reaches var head terminal := by
    rintro terminal ⟨site, listed, meant, label, mentioned, var, indexed, leads⟩
    obtain ⟨head, reaches⟩ := Proc.mem_terminals_iff.mp leads
    exact ⟨site, listed, meant, label, var, head,
      Blend.mentions_of_mem_mentionedLabels mentioned, indexed, reaches⟩
  constructor
  · intro terminal ch changed
    by_contra unreached
    exact changed (written.place?_unchanged (fun leads => unreached (ways terminal leads)) ch)
  · rintro number rfl inside within head slot member changed
    have sameLevel : reached.level = network.level := network.level_performAll operations
    rw [sameLevel] at within
    -- some variable of the cell was reached, through a proc of the voice
    obtain ⟨terminal, leads, rfl⟩ : ∃ terminal,
        Blend.Reached weights (some number) reached.level.sites terminal ∧
          terminal.slot = slot := by
      by_contra unreached
      exact changed (written.unchanged fun terminal leads same =>
        unreached ⟨terminal, leads, same⟩)
    obtain ⟨site, listed, meant, label, var, other, -, -, reaches⟩ := ways terminal leads
    rw [sameLevel] at listed
    obtain ⟨around, outer, isProc, -⟩ := Level.exists_within_of_mem_sites listed
    have isVoice : other.replica = some number :=
      reaches.replica_eq (fun _ => Build.handsDown_of_build built) outer isProc
        (beq_iff_eq.mp meant)
    rw [← Build.head_unique_of_build built (within.mem_leaves member)
      (reaches.mem_leaves outer isProc)]
    exact isVoice

namespace Voices

/-- Two voices, with a preset for both. -/
def presetTemplate : Template :=
  { Voices.template with presets := [⟨"soft", [("voice", .inline ⟨[("level", .float 0.5)]⟩)]⟩] }

end Voices

/-- A preset for the second of two voices changes its constant, and leaves the cell of the first
one as it was. -/
theorem voices_isolated :
    ∃ network : Network Builtin,
      Network.build Voices.classes Voices.presetTemplate .standard [] = .ok network ∧
        let reached := network.performAll [.cycle]
        let after := (reached.applyWeights [("soft", 1)] (some 1) "soft").1
        after.store.place? ⟨2, 0⟩ 0 ≠ reached.store.place? ⟨2, 0⟩ 0 ∧
          (∃ site ∈ reached.level.sites, Blend.targets (some 1) site = true ∧
            ∃ label var head, Blend.Mentions site [("soft", 1)] label ∧
              site.proc.variableIndex? label = some var ∧
                site.proc.Reaches var head ⟨2, 0⟩) ∧
            after.store[1]? = reached.store[1]? := by
  have built : Network.build Voices.classes Voices.presetTemplate .standard [] = .ok _ := rfl
  obtain ⟨mentioned, ofVoice⟩ := presets_isolated built [.cycle] [("soft", 1)] (some 1) "soft"
  refine ⟨_, built, by decide +kernel, mentioned ⟨2, 0⟩ 0 (by decide +kernel), ?_⟩
  by_contra touched
  rw [Network.level_performAll] at ofVoice
  have first := ofVoice 1 rfl _ (.inner (List.mem_of_getElem? (i := 1) rfl) rfl (.self _)) _ 1
    (List.mem_singleton_self _) touched
  cases first

end SignalNet
