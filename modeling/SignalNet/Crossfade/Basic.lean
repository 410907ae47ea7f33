import SignalNet.Crossfade.Ramp
import SignalNet.Network.Cycle

/-!
Contract: two networks that are mixed into one set of devices.

One network is heard while the other is prepared; a fade takes the first out and
the second in, and exchanges their roles at once. The input of the common devices
goes to every network that is not idle, scaled by its gain, and the outputs of
those networks are added up, scaled alike. Devices match by position.

Owns: lanes, fades, and the cycle of a pair.
-/

set_option autoImplicit false

namespace SignalNet

/-- What a lane is doing. -/
inductive FadeState where
  | inactive
  | active
  | fadeIn
  | fadeOut
deriving DecidableEq, Repr, Inhabited

/-- The state of a lane whose ramp has arrived. -/
def FadeState.settled : FadeState → FadeState
  | fadeIn => active
  | fadeOut => inactive
  | active => active
  | inactive => inactive

def FadeState.isFading (state : FadeState) : Bool := state == fadeIn || state == fadeOut

/-- A network with its gain. -/
structure Lane (P : Type) where
  network : Network P
  state : FadeState
  ramp : Ramp

/-- Which of the two networks is meant. -/
inductive Role where
  | current
  | next
deriving DecidableEq, Repr

/-- Two networks and the devices they are mixed into. -/
structure Crossfade (P : Type) where
  first : Lane P
  second : Lane P
  /-- The first lane is the current one. -/
  firstIsCurrent : Bool
  devices : List Device

/-- The gains of a lane for the frames of one cycle. -/
abbrev Gains := Array Float32

/-- Overwrite a block with a scaled source, where both and the gains reach. -/
def AudioBlock.feed (block source : AudioBlock) (gains : Gains) : AudioBlock :=
  block.update fun ch n old =>
    match source.sample? ch n, gains[n]? with
    | some sample, some gain => sample * gain
    | _, _ => old

/-- Add a scaled source to a block, where both and the gains reach. -/
def AudioBlock.mixIn (block source : AudioBlock) (gains : Gains) : AudioBlock :=
  block.update fun ch n old =>
    match source.sample? ch n, gains[n]? with
    | some sample, some gain => old + sample * gain
    | _, _ => old

namespace Crossfade

variable {P : Type}

/-- Begin with one network heard and one idle. -/
def new (current next : Network P) (devices : List Device) : Crossfade P :=
  ⟨⟨current, .active, .still 1⟩, ⟨next, .inactive, .still 0⟩, true, devices⟩

def lane (pair : Crossfade P) (role : Role) : Lane P :=
  if pair.firstIsCurrent == (role == .current) then pair.first else pair.second

def setLane (pair : Crossfade P) (role : Role) (lane : Lane P) : Crossfade P :=
  if pair.firstIsCurrent == (role == .current) then { pair with first := lane }
  else { pair with second := lane }

def network (pair : Crossfade P) (role : Role) : Network P := (pair.lane role).network

def setNetwork (pair : Crossfade P) (role : Role) (network : Network P) : Crossfade P :=
  pair.setLane role { pair.lane role with network }

def state (pair : Crossfade P) (role : Role) : FadeState := (pair.lane role).state

def isFading (pair : Crossfade P) : Bool :=
  pair.first.state.isFading || pair.second.state.isFading

def fadeFrames (pair : Crossfade P) (milliseconds : Float) : Nat :=
  Number.nearestCount
    ((pair.network .current).timing.sampleRate * Number.nonnegative milliseconds / 1000)

/-- Fade the current network out and the next one in, and exchange their roles. -/
def beginFade (pair : Crossfade P) (milliseconds : Float) : Crossfade P :=
  let frames := pair.fadeFrames milliseconds
  let leaving := pair.lane .current
  let coming := pair.lane .next
  let faded :=
    (pair.setLane .current ⟨leaving.network, .fadeOut, leaving.ramp.aim 0 frames⟩).setLane .next
      ⟨coming.network, .fadeIn, coming.ramp.aim 1 frames⟩
  { faded with firstIsCurrent := !pair.firstIsCurrent }

/-- What a lane hears on a device: the scaled input of the common device. Its own
outputs start silent. -/
def prepareDevice (gains : Gains) (common own : Device) : Device :=
  match common.audio?, own.audio? with
  | some source, some _ =>
      if common.isAudioInput then own.mapAudio (·.feed source gains)
      else if own.isAudioOutput then own.mapAudio (·.clear) else own
  | _, _ => if own.isAudioOutput then own.mapAudio (·.clear) else own

/-- The channels that two blocks have in common. -/
def sharedSpans (block other : AudioBlock) : List Span :=
  let channels := min block.channels other.channels
  [block.span channels, other.span channels]

/-- What is gone through where a lane hears a common device. -/
def hearingSpans (common own : Device) : List Span :=
  match common.audio?, own.audio? with
  | some source, some block => if common.isAudioInput then sharedSpans block source else []
  | _, _ => []

/-- What is gone through where a common device is mixed. -/
def mixingSpans (common own : Device) : List Span :=
  match common.audio?, own.audio? with
  | some sum, some source => if common.isAudioOutput then sharedSpans sum source else []
  | _, _ => []

/-- The fault of loops over devices at the same positions. -/
def overrunAlong (spans : Device → Device → List Span) (commons owns : List Device) :
    Option Overrun :=
  Span.firstOverrun? ((commons.zip owns).flatMap fun (common, own) => spans common own)

/-- Add what a lane plays on a device to the common output. -/
def mixDevice (gains : Gains) (common own : Device) : Device :=
  match own.audio? with
  | some source => if common.isAudioOutput then common.mapAudio (·.mixIn source gains) else common
  | none => common

/-- Combine devices by position, as far as both lists go, and keep the rest of the
second. -/
def combineDevices (f : Device → Device → Device) : List Device → List Device → List Device
  | common :: commons, own :: owns => f common own :: combineDevices f commons owns
  | _, owns => owns

/-- Let a network hear the common devices and advance it by a cycle. What it plays then can be
mixed. -/
def advance [Processor P] (gains : Gains) (devices : List Device) (network : Network P) :
    Network P × Except CycleError StepStatus :=
  match overrunAlong hearingSpans devices network.devices with
  | some fault => (network, .error (.overrun fault))
  | none =>
      let prepared := { network with
        devices := combineDevices (prepareDevice gains) devices network.devices }
      match prepared.cycle with
      | (after, .error fault) => (after, .error fault)
      | (after, .ok status) =>
          match overrunAlong mixingSpans devices after.devices with
          | some fault => (after, .error (.overrun fault))
          | none => (after, .ok status)

/-- Advance one lane by a cycle and mix what it plays into the devices. An idle lane
does nothing. -/
def cycleLane [Processor P] (devices : List Device) (lane : Lane P) :
    Lane P × List Device × Except CycleError StepStatus :=
  if lane.state = .inactive then (lane, devices, .ok .proceed)
  else
    let (levels, ramp) := Ramp.gains lane.network.timing.framesPerCycle lane.ramp
    let gains : Gains := (levels.map Number.narrow).toArray
    match advance gains devices lane.network with
    | (network, .error fault) => (⟨network, lane.state, ramp⟩, devices, .error fault)
    | (network, .ok status) =>
        let mixed := combineDevices (fun own common => mixDevice gains common own)
          network.devices devices
        let state := if ramp.isSettled then lane.state.settled else lane.state
        (⟨network, state, ramp⟩, mixed, .ok status)

def clearOutputs (devices : List Device) : List Device :=
  devices.map fun device => if device.isAudioOutput then device.mapAudio (·.clear) else device

/-- Advance all lanes that are not idle by one cycle. -/
def cycle [Processor P] (pair : Crossfade P) : Crossfade P × Except CycleError StepStatus :=
  match cycleLane (clearOutputs pair.devices) pair.first with
  | (first, devices, .error fault) => ({ pair with first, devices }, .error fault)
  | (first, devices, .ok status) =>
      match cycleLane devices pair.second with
      | (second, devices, .error fault) => ({ pair with first, second, devices }, .error fault)
      | (second, devices, .ok next) =>
          ({ pair with first, second, devices }, .ok (status.or next))

/-- Run a pair of networks. -/
def run [Processor P] (pair : Crossfade P) (limit : Option Nat) :
    Crossfade P × Except CycleError RunReport :=
  runLoop Crossfade.cycle limit pair

end Crossfade

end SignalNet
