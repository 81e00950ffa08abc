namespace DroneSession

/-!
# Flight commands

A flight command holds one value for each of the four axes.  Commands are built by
`FlightCommand.of` and `FlightCommand.withAxis`, which bound every axis they are given.
-/

/-- The four directions in which a drone is driven. -/
inductive Axis where
  | pitch
  | roll
  | yaw
  | gaz
  deriving Repr, DecidableEq

namespace Axis

/-- The name shown in messages and labels. -/
def name : Axis → String
  | .pitch => "Pitch"
  | .roll => "Roll"
  | .yaw => "Yaw"
  | .gaz => "Gaz"

end Axis

/-- A command that is given once instead of being held. -/
inductive DiscreteAction where
  | takeoff
  | land
  | flatTrim
  | hover
  deriving Repr, DecidableEq

namespace DiscreteAction

/-- The name of an action. -/
def name : DiscreteAction → String
  | .takeoff => "Takeoff"
  | .land => "Land"
  | .flatTrim => "FlatTrim"
  | .hover => "Hover"

end DiscreteAction

/-- Limit a value to the interval from -1 to 1; a value that is not a number stays as it is. -/
def clampUnit (value : Float32) : Float32 :=
  let atLeast := if value < -1.0 then -1.0 else value
  if 1.0 < atLeast then 1.0 else atLeast

/-- Limit a finite value to the interval from -1 to 1; all other values become zero. -/
def bounded (value : Float32) : Float32 :=
  if value.isFinite then clampUnit value else 0.0

/--
The control vector of one tick.  Negative pitch flies forward, positive roll flies right, positive
yaw turns clockwise and positive gaz climbs.
-/
structure FlightCommand where
  pitch : Float32
  roll : Float32
  yaw : Float32
  gaz : Float32

namespace FlightCommand

/-- All axes neutral: the drone holds its position. -/
def hover : FlightCommand where
  pitch := 0.0
  roll := 0.0
  yaw := 0.0
  gaz := 0.0

instance : Inhabited FlightCommand :=
  ⟨hover⟩

/-- A command with every axis bounded. -/
def of
    (pitch roll yaw gaz : Float32) :
    FlightCommand where
  pitch := bounded pitch
  roll := bounded roll
  yaw := bounded yaw
  gaz := bounded gaz

/-- The command with another number on one axis, which is brought within bounds. -/
def withAxis
    (command : FlightCommand)
    (axis : Axis)
    (value : Float32) :
    FlightCommand :=
  match axis with
  | .pitch => { command with pitch := bounded value }
  | .roll => { command with roll := bounded value }
  | .yaw => { command with yaw := bounded value }
  | .gaz => { command with gaz := bounded value }

/-- The number on an axis of a command. -/
def axis
    (command : FlightCommand) :
    Axis → Float32
  | .pitch => command.pitch
  | .roll => command.roll
  | .yaw => command.yaw
  | .gaz => command.gaz

/-- Whether every axis is neutral; both zeros count. -/
def isHover (command : FlightCommand) : Bool :=
  command.pitch == 0.0 && command.roll == 0.0 && command.yaw == 0.0 && command.gaz == 0.0

end FlightCommand

end DroneSession
