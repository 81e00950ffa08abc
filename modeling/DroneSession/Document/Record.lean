import DroneSession.Document.Choice
import DroneSession.Telemetry.Record

namespace DroneSession

/-!
# Values of a flight in documents

Flight commands, pilot sessions, control states and navigation records as mappings.  A command is
taken as it is written and not bounded.
-/

namespace Document

open Yaml (Node Decoder)
open Yaml.Decoder (record field single unsigned32 signed32)

/-- Read the session of a pilot. -/
def readPilotSession : Node → Decoder PilotSession :=
  record fun entries => return ⟨← field "sensitivity" sensitivities.read entries⟩

/-- Write the session of a pilot. -/
def writePilotSession (session : PilotSession) : Node :=
  writeRecord [("sensitivity", sensitivities.write session.sensitivity)]

/-- Read a flight command; the numbers are taken as they are written. -/
def readCommand : Node → Decoder FlightCommand :=
  record fun entries => do
    let pitch ← field "pitch" single entries
    let roll ← field "roll" single entries
    let yaw ← field "yaw" single entries
    let gaz ← field "gaz" single entries
    return { pitch := pitch, roll := roll, yaw := yaw, gaz := gaz }

/-- Write a flight command. -/
def writeCommand (command : FlightCommand) : Node :=
  writeRecord
    [ ("pitch", writeSingle command.pitch),
      ("roll", writeSingle command.roll),
      ("yaw", writeSingle command.yaw),
      ("gaz", writeSingle command.gaz) ]

/-- Read a control state. -/
def readControl : Node → Decoder ControlState :=
  record fun entries => do
    let phase ← field "phase" readPhase entries
    let flying ← field "flying" readFlying entries
    return { phase := phase, flying := flying }

/-- Write a control state. -/
def writeControl (control : ControlState) : Node :=
  writeRecord [("phase", writePhase control.phase), ("flying", writeFlying control.flying)]

/-- Read a single for a field that keeps every bit. -/
def readRaw (node : Node) : Decoder RawSingle :=
  return ⟨(← single node).toBits⟩

/-- Write a single that is kept by its bits. -/
def writeRaw (raw : RawSingle) : Node :=
  writeSingle raw.value

/-- Read a record of telemetry. -/
def readNavigation : Node → Decoder NavigationRecord :=
  record fun entries => do
    let status ← field "drone_state" unsigned32 entries
    let sequence ← field "sequence" unsigned32 entries
    let visionDefined ← field "vision_defined" unsigned32 entries
    let control ← field "control" readControl entries
    let battery ← field "battery" unsigned32 entries
    let theta ← field "theta" readRaw entries
    let phi ← field "phi" readRaw entries
    let psi ← field "psi" readRaw entries
    let altitude ← field "altitude" signed32 entries
    let vx ← field "vx" readRaw entries
    let vy ← field "vy" readRaw entries
    let vz ← field "vz" readRaw entries
    let frameIndex ← field "frame_index" unsigned32 entries
    return { status := ⟨status⟩
             sequence := sequence
             visionDefined := visionDefined
             control := control
             battery := battery
             theta := theta
             phi := phi
             psi := psi
             altitude := altitude
             vx := vx
             vy := vy
             vz := vz
             frameIndex := frameIndex }

/-- Write a record of telemetry. -/
def writeNavigation (navigation : NavigationRecord) : Node :=
  writeRecord
    [ ("drone_state", writeWhole navigation.status.bits.toNat),
      ("sequence", writeWhole navigation.sequence.toNat),
      ("vision_defined", writeWhole navigation.visionDefined.toNat),
      ("control", writeControl navigation.control),
      ("battery", writeWhole navigation.battery.toNat),
      ("theta", writeRaw navigation.theta),
      ("phi", writeRaw navigation.phi),
      ("psi", writeRaw navigation.psi),
      ("altitude", writeWhole navigation.altitude.toInt),
      ("vx", writeRaw navigation.vx),
      ("vy", writeRaw navigation.vy),
      ("vz", writeRaw navigation.vz),
      ("frame_index", writeWhole navigation.frameIndex.toNat) ]

end Document

end DroneSession
