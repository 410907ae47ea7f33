import SignalNet.Number.Exact
import SignalNet.Preset.Error

/-!
Contract: choosing presets from weighted candidates.

A set of candidates resolves to one that is drawn by weight, or to all of them
with normalized weights. A selector resolves its primary set, and blends in its
secondary set if it is asked to.

Owns: the draw, the normalization, and the blend of two sets. Random numbers come
from a source of 64-bit words that the caller provides.
-/

set_option autoImplicit false

namespace SignalNet

/-- Words that are handed out in turn, over and over. -/
structure WordSource where
  words : Array UInt64
  position : Nat
deriving Repr

/-- Hand out a word; without words, zero. -/
def WordSource.draw (source : WordSource) : UInt64 × WordSource :=
  (source.words.getD (source.position % source.words.size) 0,
    ⟨source.words, source.position + 1⟩)

/-- How sets of candidates are resolved. -/
structure SelectorMode where
  /-- Draw one primary candidate. -/
  drawPrimary : Bool
  /-- Draw one secondary candidate. -/
  drawSecondary : Bool
  /-- Blend the two sets. -/
  interpolate : Bool
deriving DecidableEq, Repr, Inhabited

def SelectorMode.union (left right : SelectorMode) : SelectorMode :=
  ⟨left.drawPrimary || right.drawPrimary, left.drawSecondary || right.drawSecondary,
    left.interpolate || right.interpolate⟩

/-- Weighted candidates. -/
structure PresetSelector where
  primary : List (String × Float)
  secondary : List (String × Float)
  mode : SelectorMode
  /-- How much of the secondary set is blended in. -/
  coefficient : Option Float

namespace PresetSelector

/-- The coefficient of a selector that has none. -/
def defaultCoefficient : Float := 0.5

/-- The next smaller number below a positive one. -/
def predecessor (x : Float) : Float := Float.ofBits (x.toBits - 1)

/-- The largest fraction that a word stands for. -/
def largestFraction : Float := 1 - 1 / 4503599627370496

/-- The fraction below one that the upper bits of a word stand for. -/
def fraction (word : UInt64) : Float := Float.ofNat (word >>> 12).toNat / 4503599627370496

/-- The factor from fractions to points below the total: the total itself, unless the
largest fraction would then reach it. -/
def pointScale (total : Float) : Float :=
  if total ≤ total * largestFraction then predecessor total else total

/-- The sums of the weights up to each one; none if a weight is negative or not a
number. -/
def runningSums : Float → List Float → Option (List Float)
  | _, [] => some []
  | sum, weight :: rest =>
      if 0 ≤ weight then (runningSums (sum + weight) rest).map ((sum + weight) :: ·) else none

/-- The sums of usable weights: none is negative, and their total is not zero. -/
def usableSums? (weights : List Float) : Option (List Float) :=
  match weights with
  | [] => none
  | first :: rest =>
      if 0 ≤ first then
        match runningSums first rest with
        | none => none
        | some sums => if sums.getLastD first == 0 then none else some (first :: sums)
      else none

/-- The position that a point falls on: the number of sums, without the last, that it
reaches. -/
def positionOf (sums : List Float) (point : Float) : Nat :=
  (sums.dropLast.filter (· ≤ point)).length

/-- Draw one candidate by weight. Unusable weights give the first and use no word. A total
that is infinite is no bound for a draw: a program that asks for one stops, and the
candidate given here for it stands for no answer. -/
def drawOne (set : List (String × Float)) (source : WordSource) :
    List (String × Float) × WordSource :=
  let pick := fun position => ((set[position]?).map fun entry => (entry.1, (1 : Float))).toList
  match usableSums? (set.map (·.2)) with
  | none => (pick 0, source)
  | some sums =>
      let (word, source) := source.draw
      (pick (positionOf sums (fraction word * pointScale (sums.getLastD 0))), source)

/-- All candidates of positive weight, with their share of the total; equal shares if
there is no positive weight. -/
def normalize (set : List (String × Float)) : List (String × Float) :=
  let total := set.foldl (fun sum entry => sum + Number.nonnegative entry.2) 0
  if total ≤ 0 then
    let share := 1 / Float.ofNat set.length
    set.map fun entry => (entry.1, share)
  else (set.filter fun entry => 0 < entry.2).map fun entry => (entry.1, entry.2 / total)

def resolveSet (draw : Bool) (set : List (String × Float)) (source : WordSource) :
    List (String × Float) × WordSource :=
  if draw then drawOne set source else (normalize set, source)

/-- Add a weight to a label that is there, or put it at the end. -/
def accumulate (label : String) (weight : Float) :
    List (String × Float) → List (String × Float)
  | [] => [(label, weight)]
  | (present, sum) :: rest =>
      if present = label then (present, sum + weight) :: rest
      else (present, sum) :: accumulate label weight rest

/-- Join weights of equal labels, in the order in which the labels first appear. -/
def merge (entries : List (String × Float)) : List (String × Float) :=
  entries.foldl (fun merged entry => accumulate entry.1 entry.2 merged) []

def scale (factor : Float) (entries : List (String × Float)) : List (String × Float) :=
  entries.map fun entry => (entry.1, entry.2 * factor)

/-- Whether a coefficient lies between zero and one. -/
def isCoefficient (x : Float) : Bool := 0 ≤ x && x ≤ 1

/-- Resolve a selector to labels with weights. -/
def resolve (selector : PresetSelector) (source : WordSource) :
    Except PresetError (List (String × Float)) × WordSource :=
  if selector.primary.isEmpty then (.error .emptySelector, source)
  else
    let (primary, source) := resolveSet selector.mode.drawPrimary selector.primary source
    if selector.secondary.isEmpty || !selector.mode.interpolate then (.ok primary, source)
    else
      let c := selector.coefficient.getD defaultCoefficient
      if !isCoefficient c then (.error (.invalidCoefficient c), source)
      else
        let (secondary, source) :=
          resolveSet selector.mode.drawSecondary selector.secondary source
        (.ok (merge (scale (1 - c) primary ++ scale c secondary)), source)

/-- Resolve a selector `count` times in a row; the first fault ends it. -/
def resolveMany (selector : PresetSelector) :
    Nat → WordSource → Except PresetError (List (List (String × Float)))
  | 0, _ => .ok []
  | count + 1, source =>
      match selector.resolve source with
      | (.error fault, _) => .error fault
      | (.ok weights, source) => (resolveMany selector count source).map (weights :: ·)

end PresetSelector

end SignalNet
