import SignalNet.Number.Exact

/-!
Contract: gains that move linearly to a target.

A ramp moves by the same amount every frame, and takes exactly its target on the
last one.
-/

set_option autoImplicit false

namespace SignalNet

/-- A gain on its way to a target. -/
structure Ramp where
  gain : Float
  target : Float
  increment : Float
  /-- The frames that are left. -/
  remaining : Nat
deriving DecidableEq

namespace Ramp

def still (gain : Float) : Ramp := ⟨gain, gain, 0, 0⟩

/-- Move to a target in a number of frames; without frames, jump to it. -/
def aim (ramp : Ramp) (target : Float) (frames : Nat) : Ramp :=
  if frames = 0 then ⟨target, target, 0, 0⟩
  else ⟨ramp.gain, target, (target - ramp.gain) / Float.ofNat frames, frames⟩

def advance (ramp : Ramp) : Ramp :=
  match ramp.remaining with
  | 0 => ramp
  | 1 => ⟨ramp.target, ramp.target, ramp.increment, 0⟩
  | left + 2 => ⟨ramp.gain + ramp.increment, ramp.target, ramp.increment, left + 1⟩

def isSettled (ramp : Ramp) : Bool := ramp.remaining == 0

/-- Move some frames, and list the gain of each. -/
def gains : Nat → Ramp → List Float × Ramp
  | 0, ramp => ([], ramp)
  | frames + 1, ramp =>
      let next := ramp.advance
      let (rest, last) := gains frames next
      (next.gain :: rest, last)

end Ramp

end SignalNet
