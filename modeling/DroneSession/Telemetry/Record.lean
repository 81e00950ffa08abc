import DroneSession.Telemetry.ControlState
import DroneSession.Telemetry.StatusWord

namespace DroneSession

/-!
# Navigation records

A record holds the values of one navigation packet as they were sent: angles in thousandths of a
degree, altitude in millimetres and velocities in millimetres per second.  Floating fields are kept
as words, so no bit of them is lost; the accessors convert to radians and metres.
-/

/-- A floating value as it was sent, with every bit of it. -/
structure RawSingle where
  bits : UInt32
  deriving Repr, DecidableEq

namespace RawSingle

/-- The value that the word stands for. -/
def value (raw : RawSingle) : Float32 :=
  Float32.ofBits raw.bits

end RawSingle

/-- The values of one navigation packet. -/
structure NavigationRecord where
  status : StatusWord
  sequence : UInt32
  visionDefined : UInt32
  control : ControlState
  battery : UInt32
  theta : RawSingle
  phi : RawSingle
  psi : RawSingle
  altitude : Int32
  vx : RawSingle
  vy : RawSingle
  vz : RawSingle
  frameIndex : UInt32
  deriving DecidableEq

namespace NavigationRecord

/-- Half a turn in radians. -/
def halfTurn : Float32 :=
  Float32.ofBits 0x40490fdb

/-- Convert thousandths of a degree to radians. -/
def radians (millidegrees : RawSingle) : Float32 :=
  millidegrees.value / 1000.0 * (halfTurn / 180.0)

/-- The angle by which the nose is up. -/
def pitch (record : NavigationRecord) : Float32 :=
  radians record.theta

/-- The angle by which the right side is down. -/
def roll (record : NavigationRecord) : Float32 :=
  radians record.phi

/-- The heading in radians. -/
def yaw (record : NavigationRecord) : Float32 :=
  radians record.psi

/-- The altitude in metres. -/
def altitudeMetres (record : NavigationRecord) : Float32 :=
  Number.singleOfInt record.altitude.toInt / 1000.0

/-- The forward velocity in metres per second. -/
def velocityX (record : NavigationRecord) : Float32 :=
  record.vx.value / 1000.0

/-- The sideward velocity in metres per second. -/
def velocityY (record : NavigationRecord) : Float32 :=
  record.vy.value / 1000.0

/-- The vertical velocity in metres per second. -/
def velocityZ (record : NavigationRecord) : Float32 :=
  record.vz.value / 1000.0

/-- Whether the status word or the control phase says that the drone is in the air. -/
def isFlying (record : NavigationRecord) : Bool :=
  record.status.isFlying || record.control.phase.isAirborne

/-- The values that a screen shows. -/
def fields (record : NavigationRecord) : List Field :=
  [ .mk "sequence" (.ofUnsigned record.sequence.toNat),
    .mk "state" (.group record.status.fields),
    .mk "control_phase" (.text record.control.phase.label),
    .mk "flying_state" (.text record.control.flying.label),
    .mk "battery" (.ofUnsigned record.battery.toNat),
    .mk "attitude"
      (.group
        [ .mk "pitch" (.ofSingle record.pitch),
          .mk "roll" (.ofSingle record.roll),
          .mk "yaw" (.ofSingle record.yaw) ]),
    .mk "altitude" (.ofSingle record.altitudeMetres),
    .mk "velocity"
      (.group
        [ .mk "x" (.ofSingle record.velocityX),
          .mk "y" (.ofSingle record.velocityY),
          .mk "z" (.ofSingle record.velocityZ) ]) ]

end NavigationRecord

end DroneSession
