import DroneSession.Autopilot.Angle
import DroneSession.Flight.Command

namespace DroneSession

/-!
# Intents

An intent drives one axis.  Holds give their axis a constant value; the other intents steer toward a
target by the latest navigation record and say when they have reached it.  An application may set
goals of its own, which follow any rule.
-/

/-- What an intent wants in one tick. -/
structure IntentOutput where
  value : Float32
  /-- The goal of the intent is met. -/
  satisfied : Bool

namespace IntentOutput

/-- What a steering intent wants while there is no navigation record. -/
def idle : IntentOutput where
  value := 0.0
  satisfied := false

/-- An output with its value between -1 and 1. -/
def of
    (value : Float32)
    (satisfied : Bool) :
    IntentOutput where
  value := clampUnit value
  satisfied := satisfied

end IntentOutput

/-- A control goal on one axis, as an objective sees it. -/
structure AxisGoal where
  axis : Axis
  /-- What the goal wants in one tick, given the latest navigation record. -/
  evaluate : Option NavigationRecord → IntentOutput
  /-- The goal as it is inspected. -/
  inspect : String

/-- A built-in control goal on one axis. -/
inductive Intent where
  | pitchHold (value : Float32)
  | rollHold (value : Float32)
  | yawRate (value : Float32)
  | verticalSpeed (value : Float32)
  /-- Turn to a heading; only one that can be obtained is ever satisfied. -/
  | heading (target : Float32) (canBeObtained : Bool)
  | altitude (target : Float32)
  | velocityX (target : Float32)
  | velocityY (target : Float32)

namespace Intent

/-- The axis that an intent drives. -/
def axis : Intent → Axis
  | .pitchHold _ => .pitch
  | .rollHold _ => .roll
  | .yawRate _ => .yaw
  | .verticalSpeed _ => .gaz
  | .heading .. => .yaw
  | .altitude _ => .gaz
  | .velocityX _ => .pitch
  | .velocityY _ => .roll

/-- The yaw for a heading error of one radian; an eighth of a turn calls for the full rate. -/
def headingGain : Float32 :=
  4.0 / NavigationRecord.halfTurn

/-- The heading error below which a heading is reached. -/
def headingTolerance : Float32 :=
  3.0 * NavigationRecord.halfTurn / 180.0

/-- The climb for an altitude error of one metre. -/
def altitudeGain : Float32 :=
  1.0

/-- The altitude error below which an altitude is reached. -/
def altitudeTolerance : Float32 :=
  0.1

/-- The tilt for a velocity error of one metre per second. -/
def velocityGain : Float32 :=
  0.5

/-- The velocity error below which a velocity is reached. -/
def velocityTolerance : Float32 :=
  0.1

/-- Steer against the heading error of a record. -/
def steerHeading
    (target : Float32)
    (canBeObtained : Bool)
    (record : NavigationRecord) :
    IntentOutput :=
  let error := wrapAngle (target - record.yaw)
  .of (error * headingGain) (canBeObtained && error.abs < headingTolerance)

/-- Climb or sink against the altitude error of a record. -/
def steerAltitude
    (target : Float32)
    (record : NavigationRecord) :
    IntentOutput :=
  let error := target - record.altitudeMetres
  .of (error * altitudeGain) (error.abs < altitudeTolerance)

/-- Tilt forward or back against the velocity error of a record; the nose goes down to speed up. -/
def steerVelocityX
    (target : Float32)
    (record : NavigationRecord) :
    IntentOutput :=
  let error := target - record.velocityX
  .of (-error * velocityGain) (error.abs < velocityTolerance)

/-- Tilt sideward against the velocity error of a record. -/
def steerVelocityY
    (target : Float32)
    (record : NavigationRecord) :
    IntentOutput :=
  let error := target - record.velocityY
  .of (error * velocityGain) (error.abs < velocityTolerance)

/-- Follow a steering rule, or stay idle while there is no record. -/
def steer
    (rule : NavigationRecord → IntentOutput)
    (record : Option NavigationRecord) :
    IntentOutput :=
  match record with
  | none => .idle
  | some record => rule record

/-- What an intent wants, given the latest navigation record. -/
def evaluate
    (intent : Intent)
    (record : Option NavigationRecord) :
    IntentOutput :=
  match intent with
  | .pitchHold value => .of value false
  | .rollHold value => .of value false
  | .yawRate value => .of value false
  | .verticalSpeed value => .of value false
  | .heading target canBeObtained => steer (steerHeading target canBeObtained) record
  | .altitude target => steer (steerAltitude target) record
  | .velocityX target => steer (steerVelocityX target) record
  | .velocityY target => steer (steerVelocityY target) record

/-- The name of an intent and of its fields, as they are inspected. -/
def inspect (intent : Intent) : String :=
  let number (value : Float32) : String :=
    Number.Layout.inspection.write .single value.toBits.toNat
  let wrapped (name fields : String) : String :=
    name ++ "(" ++ name ++ " \x7b " ++ fields ++ " \x7d)"
  match intent with
  | .pitchHold value => wrapped "PitchHold" ("value: " ++ number value)
  | .rollHold value => wrapped "RollHold" ("value: " ++ number value)
  | .yawRate value => wrapped "YawRate" ("value: " ++ number value)
  | .verticalSpeed value => wrapped "VerticalSpeed" ("value: " ++ number value)
  | .heading target canBeObtained =>
      wrapped "Heading"
        ("target: " ++ number target ++ ", can_be_obtained: "
          ++ (if canBeObtained then "true" else "false"))
  | .altitude target => wrapped "Altitude" ("target: " ++ number target)
  | .velocityX target => wrapped "VelocityX" ("target: " ++ number target)
  | .velocityY target => wrapped "VelocityY" ("target: " ++ number target)

/-- The goal that an intent sets. -/
def goal (intent : Intent) : AxisGoal where
  axis := intent.axis
  evaluate := intent.evaluate
  inspect := intent.inspect

end Intent

end DroneSession
