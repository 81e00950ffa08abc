import DroneSession.Flight.Command

namespace DroneSession

/-!
# Manual flight

A pilot session turns held keys into flight commands.  Its sensitivity sets how far a key deflects
its axis.
-/

/-- How far a key deflects its axis. -/
inductive Sensitivity where
  | normal
  | precise
  deriving Repr, DecidableEq

namespace Sensitivity

/-- The deflection of a driven axis. -/
def magnitude : Sensitivity → Float32
  | .normal => 0.9
  | .precise => 0.25

/-- The other sensitivity. -/
def toggled : Sensitivity → Sensitivity
  | .normal => .precise
  | .precise => .normal

/-- The name of a sensitivity. -/
def name : Sensitivity → String
  | .normal => "Normal"
  | .precise => "Precise"

end Sensitivity

/-- A held key. -/
inductive ManualInput where
  | forward
  | backward
  | left
  | right
  | up
  | down
  | turnLeft
  | turnRight
  deriving Repr, DecidableEq

/-- What a pilot has chosen for a session. -/
structure PilotSession where
  sensitivity : Sensitivity
  deriving Repr, DecidableEq

namespace PilotSession

/-- Change to the other sensitivity. -/
def toggle (session : PilotSession) : PilotSession where
  sensitivity := session.sensitivity.toggled

/-- The command of one key; every other axis is neutral. -/
def command
    (session : PilotSession)
    (input : ManualInput) :
    FlightCommand :=
  let magnitude := session.sensitivity.magnitude
  match input with
  | .forward => FlightCommand.hover.withAxis .pitch (-magnitude)
  | .backward => FlightCommand.hover.withAxis .pitch magnitude
  | .left => FlightCommand.hover.withAxis .roll (-magnitude)
  | .right => FlightCommand.hover.withAxis .roll magnitude
  | .up => FlightCommand.hover.withAxis .gaz magnitude
  | .down => FlightCommand.hover.withAxis .gaz (-magnitude)
  | .turnLeft => FlightCommand.hover.withAxis .yaw (-magnitude)
  | .turnRight => FlightCommand.hover.withAxis .yaw magnitude

end PilotSession

end DroneSession
