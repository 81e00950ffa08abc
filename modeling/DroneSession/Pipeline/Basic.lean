import DroneSession.Pipeline.Files
import DroneSession.Recording.Path
import DroneSession.Recording.Recorder
import DroneSession.Settings
import DroneSession.Telemetry.Worker
import DroneSession.Video.Worker

namespace DroneSession

/-!
# The ingest pipeline

Packets of both streams enter the pipeline in one place.  They pass the recorder first, if one is
attached, and then go to the worker that decodes their stream.  Whether a packet was accepted is the
answer of that worker alone.  `Pipeline.settle` runs all workers until they wait.
-/

/-- A recorder that is fed by a pipeline, and the file that it writes to. -/
structure Recording (ω : Type) where
  sink : Sink ω
  worker : Worker (RecordingStage ω)
  /-- The name of the file behind the sink, if it is a file. -/
  file : Option String
  /-- The number of bytes that were written to the file. -/
  written : Nat

/-- A recording that has come to its end. -/
structure FinishedRecording (ω : Type) where
  sink : Sink ω
  output : Output ω
  file : Option String

/-- The decoding workers, the recording in progress and the files that recordings went to. -/
structure Pipeline (δ ω : Type) where
  navigation : Worker (Slot NavigationRecord)
  video : Worker (VideoStage δ)
  recording : Option (Recording ω)
  displayRate : UpdateRate
  files : Files
  /-- What recorders that are gone have reported. -/
  reports : List Notification

namespace Recording

variable {ω : Type}

/-- Whether the thread of the recorder is alive. -/
def isAlive (recording : Recording ω) : Bool :=
  recording.worker.alive

/-- Write to the file what its sink has taken since. -/
def save
    (recording : Recording ω)
    (files : Files) :
    Recording ω × Files :=
  let received := recording.worker.state.output.received
  match recording.file with
  | none => (recording, files)
  | some file =>
      ( { recording with written := received.length },
        files.writeAt file recording.written (received.drop recording.written) )

/-- Run the recorder until it waits. -/
def settle
    (recording : Recording ω)
    (files : Files) :
    Recording ω × Files :=
  { recording with worker := recording.worker.settle }.save files

end Recording

namespace Pipeline

variable {δ ω : Type}

/-- The failure of a decoder with another layout than the one that was set. -/
def layoutError (set produced : PixelLayout) : SessionError :=
  .configuration
    ("video.pixel_layout is " ++ set.name ++ " but the decoder produces " ++ produced.name)

/-- Start a pipeline whose decoder produces the layout that the settings ask for. -/
def start
    (settings : Settings)
    (decoder : VideoDecoder δ)
    (state : δ) :
    Except SessionError (Pipeline δ ω) := do
  settings.validate
  if decoder.layout = settings.pixelLayout then
    let navigation ← NavigationWorker.create.start
    let video ← (VideoWorker.create decoder settings.resyncOnKeyframe state).start
    return { navigation := navigation
             video := video
             recording := none
             displayRate := settings.displayRate
             files := .empty
             reports := [] }
  else
    throw (layoutError settings.pixelLayout decoder.layout)

/-- Run all workers until they wait. -/
def settle (pipeline : Pipeline δ ω) : Pipeline δ ω :=
  let settled :=
    { pipeline with
      navigation := pipeline.navigation.settle
      video := pipeline.video.settle }
  match pipeline.recording with
  | none => settled
  | some recording =>
      let (recording, files) := recording.settle pipeline.files
      { settled with recording := some recording, files := files }

/-- Hand a packet to the recorder, if one is attached. -/
def tap
    (pipeline : Pipeline δ ω)
    (packet : Packet) :
    Pipeline δ ω :=
  { pipeline with
    recording := pipeline.recording.map fun recording =>
      { recording with worker := (recording.worker.enqueue packet).1 } }

/-- Hand a packet to the worker of its stream. -/
def forward
    (pipeline : Pipeline δ ω)
    (packet : Packet) :
    Pipeline δ ω × Bool :=
  match packet.kind with
  | .navigation =>
      let (worker, accepted) := pipeline.navigation.enqueue packet
      ({ pipeline with navigation := worker }, accepted)
  | .video =>
      let (worker, accepted) := pipeline.video.enqueue packet
      ({ pipeline with video := worker }, accepted)

/-- Hand a packet to the recorder and then to the worker of its stream. -/
def push
    (pipeline : Pipeline δ ω)
    (packet : Packet) :
    Pipeline δ ω × Bool :=
  (pipeline.tap packet).forward packet

/-- Push packets one after another. -/
def pushAll
    (pipeline : Pipeline δ ω)
    (packets : List Packet) :
    Pipeline δ ω :=
  packets.foldl (fun pipeline packet => (pipeline.push packet).1) pipeline

/-- Whether a recorder is attached and runs. -/
def isRecording (pipeline : Pipeline δ ω) : Bool :=
  match pipeline.recording with
  | none => false
  | some recording => recording.isAlive

/-- Detach the recorder and let it finish; nothing if none is attached. -/
def stopRecording
    (pipeline : Pipeline δ ω) :
    Pipeline δ ω × Option (FinishedRecording ω) :=
  match pipeline.recording with
  | none => (pipeline, none)
  | some recording =>
      let (worker, stage) := recording.worker.shutdown
      let (closed, files) := { recording with worker := worker }.save pipeline.files
      ( { pipeline with
          recording := none
          files := files
          reports := pipeline.reports ++ closed.worker.notifications },
        stage.map fun stage => ⟨recording.sink, stage.output, recording.file⟩ )

/-- Detach a recorder that has stopped by itself. -/
def reap (pipeline : Pipeline δ ω) : Pipeline δ ω :=
  match pipeline.recording with
  | none => pipeline
  | some recording =>
      if recording.isAlive then pipeline else pipeline.stopRecording.1

/-- Attach a recorder to a sink, which is a file if its name is given. -/
def attach
    (pipeline : Pipeline δ ω)
    (sink : Sink ω)
    (state : ω)
    (file : Option String)
    (started : Instant) :
    Pipeline δ ω × Except SessionError Unit :=
  let pipeline := pipeline.reap
  match pipeline.recording with
  | some _ => (pipeline, .error (.workerState Recorder.name "already recording"))
  | none =>
      match (Recorder.create sink state started).start with
      | .error error => (pipeline, .error error)
      | .ok worker =>
          ({ pipeline with recording := some ⟨sink, worker, file, 0⟩ }, .ok ())

/-- Record into a sink, unless a recording is in progress. -/
def startRecording
    (pipeline : Pipeline δ ω)
    (sink : Sink ω)
    (state : ω)
    (started : Instant) :
    Pipeline δ ω × Except SessionError Unit :=
  pipeline.attach sink state none started

/--
Record both streams into a file, which is created or emptied before anything else; the answer is the
path of the file.
-/
def startRecordingFile
    (pipeline : Pipeline δ ω)
    (sink : Sink ω)
    (state : ω)
    (path : String)
    (started : Instant) :
    Pipeline δ ω × Except SessionError String :=
  let path := recordingPath path
  match pipeline.files.create path with
  | .error fault => (pipeline, .error (.sinkFailure ("create " ++ path) fault))
  | .ok (files, file) =>
      match { pipeline with files := files }.attach sink state (some file) started with
      | (pipeline, .ok ()) => (pipeline, .ok path)
      | (pipeline, .error error) => (pipeline, .error error)

/-- End the recording, let every worker drain its queue and take back the decoder. -/
def shutdown (pipeline : Pipeline δ ω) : Pipeline δ ω × Option δ :=
  let (stopped, _) := pipeline.stopRecording
  let (navigation, _) := stopped.navigation.shutdown
  let (video, stage) := stopped.video.shutdown
  ( { stopped with navigation := navigation, video := video },
    stage.map VideoStage.decoder )

/-- The latest record of telemetry. -/
def latestRecord? (pipeline : Pipeline δ ω) : Option NavigationRecord :=
  pipeline.navigation.state.latest?

/-- The latest picture. -/
def latestFrame? (pipeline : Pipeline δ ω) : Option VideoFrame :=
  pipeline.video.state.slot.latest?

/-- Everything that the workers of the pipeline have reported. -/
def notifications (pipeline : Pipeline δ ω) : List Notification :=
  pipeline.navigation.notifications
    ++ pipeline.video.notifications
    ++ (match pipeline.recording with
        | none => []
        | some recording => recording.worker.notifications)
    ++ pipeline.reports

end Pipeline

end DroneSession
