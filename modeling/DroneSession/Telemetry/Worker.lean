import DroneSession.Slot
import DroneSession.Telemetry.Wire
import DroneSession.Worker.Basic

namespace DroneSession

/-!
# Navigation decoding

The navigation worker decodes navigation packets into a slot.  Packets that are malformed or belong
to the other stream are dropped and leave the slot as it is.
-/

namespace NavigationWorker

/-- The rate at which the drone sends navigation packets. -/
def sourceHertz : Float :=
  15.0

/-- The name under which the worker of telemetry reports. -/
def name : String :=
  "navdata-decoder"

/-- Publish the record of a packet; a packet without one is malformed. -/
def handle
    (slot : Slot NavigationRecord)
    (packet : Packet) :
    Slot NavigationRecord × HandlerOutcome :=
  match packet.kind with
  | .video =>
      (slot, .failed (.malformedPacket "navdata worker" "received a video packet"))
  | .navigation =>
      match Wire.decode packet.payload with
      | .ok record => (slot.publish record, .done)
      | .error fault => (slot, .failed fault.toError)

/-- The handler of telemetry, which has nothing to do at its end. -/
def handler : Handler (Slot NavigationRecord) where
  handle := handle
  finish := fun slot => (slot, .done)

/-- A worker of telemetry that was not started. -/
def create : Worker (Slot NavigationRecord) :=
  .create name handler .empty

end NavigationWorker

end DroneSession
