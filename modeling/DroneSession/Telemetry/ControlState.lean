namespace DroneSession

/-!
# Control state

The controller reports its state in one 32-bit word: the upper half is the control phase and the
lower half the flying state.  Values without a meaning are kept, so a decoded word encodes to
itself.
-/

/-- What the controller is doing, the upper half of the control word. -/
inductive ControlPhase where
  | idle
  | init
  | landed
  | flying
  | hovering
  | test
  | takingOff
  | gotoFix
  | landing
  | looping
  | unknown (raw : UInt16)
  deriving Repr, DecidableEq

namespace ControlPhase

/-- The phase that a half word stands for. -/
def ofRaw (raw : UInt16) : ControlPhase :=
  match raw.toNat with
  | 0 => .idle
  | 1 => .init
  | 2 => .landed
  | 3 => .flying
  | 4 => .hovering
  | 5 => .test
  | 6 => .takingOff
  | 7 => .gotoFix
  | 8 => .landing
  | 9 => .looping
  | _ => .unknown raw

/-- The half word that stands for a phase. -/
def raw : ControlPhase → UInt16
  | .idle => 0
  | .init => 1
  | .landed => 2
  | .flying => 3
  | .hovering => 4
  | .test => 5
  | .takingOff => 6
  | .gotoFix => 7
  | .landing => 8
  | .looping => 9
  | .unknown raw => raw

/-- The name of a phase; a phase without a meaning has only its number. -/
def label : ControlPhase → String
  | .idle => "Default"
  | .init => "Init"
  | .landed => "Landed"
  | .flying => "Flying"
  | .hovering => "Hovering"
  | .test => "Test"
  | .takingOff => "TakingOff"
  | .gotoFix => "GotoFix"
  | .landing => "Landing"
  | .looping => "Looping"
  | .unknown raw => "Unknown(" ++ toString raw.toNat ++ ")"

/-- The phases that have a meaning. -/
def known : List ControlPhase :=
  [ .idle, .init, .landed, .flying, .hovering, .test, .takingOff, .gotoFix, .landing, .looping ]

/-- Phases in which the drone is in the air. -/
def isAirborne : ControlPhase → Bool
  | .flying => true
  | .hovering => true
  | .gotoFix => true
  | .looping => true
  | .landing => true
  | _ => false

end ControlPhase

/-- How the flight goes, the lower half of the control word. -/
inductive FlyingState where
  | ok
  | lostAltitude
  | lostAltitudeGoDown
  | altitudeOutOfZone
  | combinedYaw
  | brake
  | noVision
  | unknown (raw : UInt16)
  deriving Repr, DecidableEq

namespace FlyingState

/-- The flying state that a half word stands for. -/
def ofRaw (raw : UInt16) : FlyingState :=
  match raw.toNat with
  | 0 => .ok
  | 1 => .lostAltitude
  | 2 => .lostAltitudeGoDown
  | 3 => .altitudeOutOfZone
  | 4 => .combinedYaw
  | 5 => .brake
  | 6 => .noVision
  | _ => .unknown raw

/-- The half word that stands for a flying state. -/
def raw : FlyingState → UInt16
  | .ok => 0
  | .lostAltitude => 1
  | .lostAltitudeGoDown => 2
  | .altitudeOutOfZone => 3
  | .combinedYaw => 4
  | .brake => 5
  | .noVision => 6
  | .unknown raw => raw

/-- The name of a flying state; one without a meaning has only its number. -/
def label : FlyingState → String
  | .ok => "Ok"
  | .lostAltitude => "LostAltitude"
  | .lostAltitudeGoDown => "LostAltitudeGoDown"
  | .altitudeOutOfZone => "AltitudeOutOfZone"
  | .combinedYaw => "CombinedYaw"
  | .brake => "Brake"
  | .noVision => "NoVision"
  | .unknown raw => "Unknown(" ++ toString raw.toNat ++ ")"

/-- The flying states that have a meaning. -/
def known : List FlyingState :=
  [ .ok, .lostAltitude, .lostAltitudeGoDown, .altitudeOutOfZone, .combinedYaw, .brake, .noVision ]

end FlyingState

/-- Both halves of the control word. -/
structure ControlState where
  phase : ControlPhase
  flying : FlyingState
  deriving Repr, DecidableEq

namespace ControlState

/-- The control state in a word: the phase in its upper half, the flying state in its lower half. -/
def ofWord (word : UInt32) : ControlState where
  phase := .ofRaw (word >>> 16).toUInt16
  flying := .ofRaw word.toUInt16

/-- The word of a control state. -/
def word (state : ControlState) : UInt32 :=
  (state.phase.raw.toUInt32 <<< 16) ||| state.flying.raw.toUInt32

end ControlState

end DroneSession
