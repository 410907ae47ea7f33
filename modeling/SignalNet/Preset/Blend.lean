import SignalNet.Network.Store
import SignalNet.Preset.Error

/-!
Contract: blending weighted presets into variables.

A preset contributes its literal to a channel, or the live value where it does not
mention the channel. Numbers take the weighted sum, and everything else takes the
contribution of the largest weight, the last of several. Whatever cannot be
applied is listed, and everything else is applied all the same.
-/

set_option autoImplicit false

namespace SignalNet

/-- Preset labels with their weights. -/
abbrev Weights := List (String × Float)

/-- What presets resolve to for one proc, with their weights. A preset that does not
resolve contributes live values. -/
abbrev WeightedBodies := List (Option Assignments × Float)

/-- What one preset contributes to a channel. -/
structure Contribution where
  /-- The preset has a literal for the channel. -/
  mentioned : Bool
  weight : Float
  value : Value

namespace Blend

variable {P : Type}

def literal? (body : Option Assignments) (label : String) (ch : Nat) : Option Literal :=
  (body.bind (·.get? label)).bind (·.channel? ch)

/-- The contribution of one body, in the type of the variable. -/
def contribution (type : ValueType) (label : String) (ch : Nat) (live : Value)
    (body : Option Assignments × Float) : Except ValueError Contribution :=
  match literal? body.1 label ch with
  | some literal => (literal.toValue type).map fun value => ⟨true, body.2, value⟩
  | none => .ok ⟨false, body.2, live⟩

def weightedSum (contributions : List Contribution) : Float :=
  contributions.foldl (fun sum part => sum + part.weight * part.value.number?.getD 0) 0

/-- The contribution of the largest weight, the last of several. -/
def heaviest (contributions : List Contribution) : Option Contribution :=
  contributions.foldl (fun best part =>
    match best with
    | none => some part
    | some other => if other.weight ≤ part.weight then some part else some other) none

/-- The blend of all contributions; none if no preset mentions the channel. -/
def combine (type : ValueType) (contributions : List Contribution) :
    Except ValueError (Option Value) :=
  if contributions.any (·.mentioned) then
    if type.isNumeric then (Value.ofNumber type (weightedSum contributions)).map some
    else .ok ((heaviest contributions).map (·.value))
  else .ok none

/-- The blended value of a channel. -/
def blend (type : ValueType) (label : String) (ch : Nat) (live : Value)
    (bodies : WeightedBodies) : Except ValueError (Option Value) :=
  (bodies.mapM (contribution type label ch live)).bind (combine type)

/-- Blend one channel into the variables behind terminals. -/
def applyChannel [Processor P] (type : ValueType) (label : String) (terminals : List Terminal)
    (bodies : WeightedBodies) (store : Store P) (ch : Nat) : Store P × Option ValueError :=
  match blend type label ch ((store.value? terminals ch).getD (Value.zero type)) bodies with
  | .error fault => (store, some fault)
  | .ok none => (store, none)
  | .ok (some value) =>
      match store.write true ch value terminals with
      | (written, .ok _) => (written, none)
      | (written, .error fault) => (written, some fault)

/-- Blend the channels of a variable in turn, and list what was refused. -/
def applyChannels [Processor P] (type : ValueType) (label : String) (terminals : List Terminal)
    (bodies : WeightedBodies) : List Nat → Store P → Store P × List ValueError
  | [], store => (store, [])
  | ch :: rest, store =>
      let (written, fault?) := applyChannel type label terminals bodies store ch
      let (written, faults) := applyChannels type label terminals bodies rest written
      (written, fault?.toList ++ faults)

/-- The list literals that are longer than a variable has channels. -/
def surplus (label : String) (channels : Nat) (bodies : WeightedBodies) : List PresetFault :=
  bodies.filterMap fun body =>
    (((body.1.bind (·.get? label)).bind (·.listLength?)).filter (channels < ·)).map
      (.tooManyValues · channels)

/-- Blend one variable of a proc, and list what was not applied. -/
def applyVariable [Processor P] (proc : Proc P) (bodies : WeightedBodies) (label : String)
    (store : Store P) : Store P × List PresetFault :=
  match proc.variableIndex? label with
  | none => (store, [.unknownVariable])
  | some var =>
      let type := ((proc.declaration? var).map (·.type)).getD .double
      if type.isSignal then (store, [.signalVariable type])
      else
        let terminals := proc.terminals var
        let count := store.channelCount terminals
        let (written, faults) :=
          applyChannels type label terminals bodies (List.range count) store
        (written, surplus label count bodies ++ faults.map .value)

/-- The variables that bodies mention, in the order in which they first do. -/
def mentionedLabels (bodies : WeightedBodies) : List String :=
  ((bodies.filterMap (·.1)).flatMap (·.labels)).eraseDups

def applyVariables [Processor P] (proc : Proc P) (bodies : WeightedBodies) :
    List String → Store P → Store P × List PresetFailure
  | [], store => (store, [])
  | label :: rest, store =>
      let (written, faults) := applyVariable proc bodies label store
      let (written, failures) := applyVariables proc bodies rest written
      (written, faults.map (PresetFailure.mk proc.label label) ++ failures)

/-- Blend bodies into all variables of a proc that they mention. -/
def applyBodies [Processor P] (proc : Proc P) (bodies : WeightedBodies) (store : Store P) :
    Store P × List PresetFailure :=
  applyVariables proc bodies (mentionedLabels bodies) store

/-- What a preset means for a proc: the entry of its network, or else the preset of
its class. -/
def body (site : Site P) (preset : String) : Except PresetFault (Option Assignments) :=
  let description := site.proc.description
  match (site.presets.find? (·.label == preset)).bind (·.find? site.proc.label) with
  | some (.inline values) => .ok (some values)
  | some (.named label) =>
      match description.preset? label with
      | some values => .ok (some values)
      | none => .error (.noClassPreset description.label label)
  | none => .ok (description.preset? preset)

/-- What the presets mean for a proc. -/
def bodies (site : Site P) (weights : Weights) : WeightedBodies :=
  weights.map fun (preset, weight) => ((body site preset).toOption.join, weight)

/-- The entries that name a preset which the class does not have. -/
def unresolved (site : Site P) (weights : Weights) : List PresetFailure :=
  weights.filterMap fun (preset, _) =>
    match body site preset with
    | .ok _ => none
    | .error fault => some ⟨site.proc.label, preset, fault⟩

/-- Whether a proc is meant: every proc, or those of one replica. -/
def targets (replica : Option Nat) (site : Site P) : Bool :=
  match replica with
  | none => true
  | some number => site.proc.head.replica == some number

def applySite [Processor P] (weights : Weights) (replica : Option Nat) (site : Site P)
    (store : Store P) : Store P × List PresetFailure :=
  if targets replica site then
    let (written, failures) := applyBodies site.proc (bodies site weights) store
    (written, unresolved site weights ++ failures)
  else (store, [])

def applySites [Processor P] (weights : Weights) (replica : Option Nat) :
    List (Site P) → Store P → Store P × List PresetFailure
  | [], store => (store, [])
  | site :: rest, store =>
      let (written, failures) := applySite weights replica site store
      let (written, further) := applySites weights replica rest written
      (written, failures ++ further)

/-- The outcome of an application that is known by some name. -/
def outcome (name : String) (failures : List PresetFailure) : Except PresetError Unit :=
  if failures.isEmpty then .ok () else .error (.incomplete name failures)

end Blend

end SignalNet
