import DroneSession.Recording.Entry
import DroneSession.Recording.Output
import DroneSession.Worker.Basic

namespace DroneSession

/-!
# Recording packets

The recorder appends the packets of both streams to one sink, in the order in which they arrived.
Packets that are too large for a recording are dropped.
-/

/-- The output of a recording and the instant at which it started. -/
structure RecordingStage (ω : Type) where
  output : Output ω
  started : Instant

namespace Recorder

variable {ω : Type}

/-- The name under which recorders report. -/
def name : String :=
  "packet-recorder"

/-- The entry of a packet in a recording that started at an instant. -/
def entryOf
    (started : Instant)
    (packet : Packet) :
    RecordedEntry where
  kind := packet.kind
  ticks := Tick.ofDuration (packet.timestamp.since started)
  payload := packet.payload

/-- Record a packet, unless it is too large. -/
def handle
    (sink : Sink ω)
    (stage : RecordingStage ω)
    (packet : Packet) :
    RecordingStage ω × HandlerOutcome :=
  match (entryOf stage.started packet).writes with
  | .error _ =>
      ( stage,
        .failed
          (.malformedPacket "recorder"
            (toString packet.payload.length ++ " byte packet is too large to record")) )
  | .ok pieces =>
      match stage.output.writeAll sink pieces with
      | (output, .ok ()) => ({ stage with output := output }, .done)
      | (output, .error fault) =>
          ({ stage with output := output }, .failed (.sinkFailure "recording write" fault))

/-- Flush what was written. -/
def finish
    (sink : Sink ω)
    (stage : RecordingStage ω) :
    RecordingStage ω × HandlerOutcome :=
  match stage.output.flush sink with
  | (output, .ok ()) => ({ stage with output := output }, .done)
  | (output, .error fault) =>
      ({ stage with output := output }, .failed (.sinkFailure "recording flush" fault))

/-- The handler of a recorder. -/
def handler (sink : Sink ω) : Handler (RecordingStage ω) where
  handle := handle sink
  finish := finish sink

/-- A recorder into a sink, which measures time from an instant. -/
def create
    (sink : Sink ω)
    (state : ω)
    (started : Instant) :
    Worker (RecordingStage ω) :=
  .create name (handler sink)
    { output := .start state
      started := started }

end Recorder

end DroneSession
