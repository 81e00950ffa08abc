import DroneSession.Field
import DroneSession.Text.Hexadecimal

namespace DroneSession

/-!
# Status word

The header of a navigation packet carries one bit for each condition of the drone.
-/

/-- The conditions of the drone, one bit each. -/
structure StatusWord where
  bits : UInt32
  deriving Repr, DecidableEq

namespace StatusWord

/-- The drone is in the air. -/
def flyingMask : UInt32 :=
  0x00000001

/-- The camera sends video. -/
def videoMask : UInt32 :=
  0x00000002

/-- The drone tracks its surroundings with the camera. -/
def visionMask : UInt32 :=
  0x00000004

/-- The link to the pilot is lost. -/
def communicationLostMask : UInt32 :=
  0x00002000

/-- The battery runs low. -/
def batteryLowMask : UInt32 :=
  0x00008000

/-- The motors are cut. -/
def emergencyMask : UInt32 :=
  0x80000000

/-- Whether any of the conditions of a mask holds. -/
def has
    (status : StatusWord)
    (mask : UInt32) :
    Bool :=
  status.bits &&& mask != 0

/-- Whether the drone says that it is in the air. -/
def isFlying (status : StatusWord) : Bool :=
  status.has flyingMask

/-- Whether the motors are cut. -/
def isEmergency (status : StatusWord) : Bool :=
  status.has emergencyMask

/-- Whether the battery is low. -/
def isBatteryLow (status : StatusWord) : Bool :=
  status.has batteryLowMask

/-- Whether the link to the pilot is lost. -/
def isCommunicationLost (status : StatusWord) : Bool :=
  status.has communicationLostMask

/-- The conditions that a screen shows. -/
def fields (status : StatusWord) : List Field :=
  [ .mk "raw" (.text (Text.word32 status.bits)),
    .mk "flying" (.truth status.isFlying),
    .mk "video" (.truth (status.has videoMask)),
    .mk "vision" (.truth (status.has visionMask)),
    .mk "battery_low" (.truth status.isBatteryLow),
    .mk "communication_lost" (.truth status.isCommunicationLost),
    .mk "emergency" (.truth status.isEmergency) ]

end StatusWord

end DroneSession
