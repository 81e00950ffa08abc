import DroneSession.Proofs.Pipeline.Decoding
import DroneSession.Proofs.Recording.Replay
import DroneSession.Proofs.Telemetry.RoundTrip

namespace DroneSession

/-!
# Replaying a recorded session into a pipeline

A pipeline whose recording was started before the first push hands every packet to the recorder and
to a decoding worker.  A player that comes to the end of the recording offers the same streams and
payloads in the same order, so a fresh pipeline publishes the same records and the same frames.
-/

namespace Pipeline

variable {δ ω : Type}

/-- Two pipelines that have published the same telemetry and left their decoders alike. -/
structure SameTelemetry (first second : Pipeline δ ω) : Prop where
  records : first.navigation.state.published = second.navigation.state.published
  frames : first.video.state.slot.published = second.video.state.slot.published
  decoder : first.video.state.decoder = second.video.state.decoder
  latestRecord : first.latestRecord? = second.latestRecord?
  latestFrame : first.latestFrame? = second.latestFrame?

/-- Pipelines whose decoding workers are in the same states have the same telemetry. -/
theorem SameTelemetry.of_state_eq
    {first second : Pipeline δ ω}
    (navigation : first.navigation.state = second.navigation.state)
    (video : first.video.state = second.video.state) :
    first.SameTelemetry second where
  records := by rw [navigation]
  frames := by rw [video]
  decoder := by rw [video]
  latestRecord := by rw [latestRecord?, latestRecord?, navigation]
  latestFrame := by rw [latestFrame?, latestFrame?, video]

/-- Pipelines into which the same streams and payloads were pushed end with the same telemetry. -/
theorem Decodes.sameTelemetry
    {decoder : VideoDecoder δ}
    {resync : Bool}
    {state : δ}
    {first second : Pipeline δ ω}
    {pushed offered : List Packet}
    (decodes : first.Decodes decoder resync state pushed)
    (replays : second.Decodes decoder resync state offered)
    (contents : pushed.map Playback.contentOf = offered.map Playback.contentOf) :
    first.shutdown.1.SameTelemetry second.shutdown.1 := by
  obtain ⟨navigation, video⟩ := decodes.shutdown
  obtain ⟨otherNavigation, otherVideo⟩ := replays.shutdown
  apply SameTelemetry.of_state_eq
  · rw [navigation, otherNavigation]
    exact NavigationWorker.handler_readsContent.serve_congr
      (reaching_congr .navigation contents) _
  · rw [video, otherVideo]
    exact VideoWorker.handler_readsContent.serve_congr
      (reaching_congr .video contents) _

/--
A session of a pipeline, from its start to its shutdown: what it has published, and what its
recording makes a fresh pipeline publish.
-/
structure Rebroadcasts
    (fresh : Pipeline δ ω)
    (started : Instant)
    (pushed : List Packet)
    (recorded : Bytes)
    (live : Pipeline δ ω) :
    Prop where
  /-- The records in the packets were published, in the order of the packets. -/
  records : live.navigation.state.published =
    pushed.filterMap NavigationWorker.recordIn?
  /-- The recording plays to its end wherever its delays can be timed. -/
  plays : PlaysBack recorded (Recorder.entriesOf started pushed)
  /-- Whoever plays it to its end into a fresh pipeline, which is then shut down, sees the same. -/
  same : ∀ (rate : Float) (player playing : Player) (resumed : Instant)
    (delivery : Nat → Delivery) (horizon : Duration),
    Player.create rate = .ok player →
    player.play resumed (.ofSource (.scheduled recorded delivery none)) = .ok playing →
    (playing.runUntil horizon).currentState = .finished →
    ∀ replay : List PipelineOperation,
      pushedIn replay = (playing.runUntil horizon).offered →
      live.SameTelemetry (fresh.run replay).shutdown.1

/-- A pipeline that records nothing begins a recording whose recorder starts. -/
theorem startRecording_of_free
    {pipeline : Pipeline δ ω}
    (free : pipeline.recording = none)
    {sink : Sink ω}
    {state : ω}
    {started : Instant}
    {worker : Worker (RecordingStage ω)}
    (starts : (Recorder.create sink state started).start = .ok worker) :
    pipeline.startRecording sink state started =
      ({ pipeline with recording := some ⟨sink, worker, none, 0⟩ }, .ok ()) := by
  simp only [startRecording, attach, reap, free, starts]

/-- A recorder that ends well leaves behind what its output holds. -/
theorem stopRecording_of_shutdown
    {pipeline : Pipeline δ ω}
    {recording : Recording ω}
    (attached : pipeline.recording = some recording)
    {ended : Worker (RecordingStage ω)}
    {stage : RecordingStage ω}
    (ends : recording.worker.shutdown = (ended, some stage)) :
    pipeline.stopRecording.2 = some ⟨recording.sink, stage.output, recording.file⟩ := by
  simp only [stopRecording, attached, ends, Option.map_some]

/-- What a recording holds that was attached before the first push and ended after the last. -/
theorem received_of_recorded
    {sink : Sink ω}
    (reliable : sink.Reliable)
    (sinkState : ω)
    (started : Instant)
    {fresh : Pipeline δ ω}
    (free : fresh.recording = none)
    (live : List PipelineOperation) :
    ∃ recording : Pipeline δ ω,
      fresh.startRecording sink sinkState started = (recording, .ok ()) ∧
      recording.navigation = fresh.navigation ∧
      recording.video = fresh.video ∧
      ∃ finished, (recording.run live).stopRecording.2 = some finished ∧
        finished.output.received =
          (Recorder.entriesOf started (pushedIn live)).flatMap RecordedEntry.encode := by
  obtain ⟨worker, starts, accepted, -, -, ended, stage, ends, -, received⟩ :=
    Recorder.session_received reliable sinkState started
      (scheduleOf_goesOn .recorder live) []
  change worker.accepted _ = offeredIn _ at accepted
  have everything : (pushedIn live).filter
      (fun packet => PipelinePart.recorder.takes packet.kind) = pushedIn live :=
    List.filter_eq_self.mpr (fun _ _ => rfl)
  rw [accepted, offeredIn_scheduleOf, everything] at received
  let recording : Pipeline δ ω := { fresh with recording := some ⟨sink, worker, none, 0⟩ }
  have attached : (recording.run live).recording =
      some ⟨sink, worker.run (scheduleOf .recorder live), none, 0⟩ :=
    recording_run recording live
  change (worker.run (scheduleOf .recorder live)).shutdown = (ended, some stage) at ends
  exact ⟨recording, startRecording_of_free free starts, rfl, rfl, _,
    stopRecording_of_shutdown attached ends, received⟩

/-- Of packets that are not too large a recording keeps every stream and payload. -/
theorem entriesOf_content
    (started : Instant)
    {packets : List Packet}
    (small : ∀ packet ∈ packets, packet.payload.length ≤ RecordedEntry.largestPayload) :
    (Recorder.entriesOf started packets).map RecordedEntry.content =
      packets.map Playback.contentOf := by
  rw [Recorder.entriesOf_of_recordable started small, List.map_map]
  rfl

/--
A session that is recorded from its first packet on replays to the same telemetry, however the
threads of both pipelines take turns.
-/
theorem recorded_telemetry_replays
    {settings : Settings}
    {decoder : VideoDecoder δ}
    (valid : settings.validate = .ok ())
    (matching : decoder.layout = settings.pixelLayout)
    {sink : Sink ω}
    (reliable : sink.Reliable)
    (state : δ)
    (sinkState : ω)
    (started : Instant)
    {live : List PipelineOperation}
    (small : ∀ packet ∈ pushedIn live,
      packet.payload.length ≤ RecordedEntry.largestPayload) :
    ∃ (fresh recording stopped : Pipeline δ ω) (finished : FinishedRecording ω),
      start settings decoder state = .ok fresh ∧
      fresh.startRecording sink sinkState started = (recording, .ok ()) ∧
      (recording.run live).stopRecording = (stopped, some finished) ∧
      Rebroadcasts fresh started (pushedIn live) finished.output.received
        stopped.shutdown.1 := by
  obtain ⟨fresh, starts, free, decodes⟩ :=
    @start_decodes δ ω decoder settings valid matching state
  obtain ⟨recording, tapped, sameNavigation, sameVideo, finished, ends, received⟩ :=
    received_of_recorded reliable sinkState started free live
  have begun : recording.Decodes decoder settings.resyncOnKeyframe state [] := by
    constructor
    · rw [sameNavigation]
      exact decodes.navigation
    · rw [sameVideo]
      exact decodes.video
  have served := (begun.run live).stopRecording
  rw [List.nil_append] at served
  refine ⟨fresh, recording, _, finished, starts, tapped, Prod.ext rfl ends, ?_, ?_, ?_⟩
  · rw [served.shutdown.1, navigationServed, NavigationWorker.published_serve,
      filterMap_recordIn?_reaching]
    rfl
  · rw [received]
    exact playsBack_encodings (fun _ => Recorder.entriesOf_writable)
  · -- The player renumbers and retimes the packets, so only their contents can be compared.
    intro rate player playing resumed delivery horizon created plays played replay offers
    rw [received] at plays
    have contents := offered_of_finished (fun _ => Recorder.entriesOf_writable) created plays
      played
    rw [entriesOf_content started small, ← offers] at contents
    exact served.sameTelemetry (decodes.run replay) contents.symm

/-- A decoder that turns every unit into a black picture of one pixel. -/
def blackout : VideoDecoder Unit where
  layout := .bgr24
  decode := fun _ _ => ((), .picture ⟨1, 1, [0, 0, 0]⟩)

/-- A record of a drone that hovers. -/
def hoveringRecord : NavigationRecord where
  status := ⟨1⟩
  sequence := 7
  visionDefined := 0
  control := .ofWord 0x00040000
  battery := 80
  theta := ⟨0⟩
  phi := ⟨0x80000000⟩
  psi := ⟨0x7fc00001⟩
  altitude := 1000
  vx := ⟨0⟩
  vy := ⟨0⟩
  vz := ⟨0⟩
  frameIndex := 0

/-- A session with a record, a packet that is malformed and a picture. -/
def shortFlight : List PipelineOperation :=
  [ .push ⟨.navigation, 3, ⟨2500⟩, Wire.encode hoveringRecord⟩,
    .consume .navigation,
    .push ⟨.navigation, 4, ⟨2600⟩, [1, 2]⟩,
    .push ⟨.video, 0, ⟨2700⟩, [9]⟩,
    .consume .recorder ]

/-- A session with a record, a malformed packet and a picture is replayed as it was. -/
theorem short_flight_replays :
    Settings.standard.validate = .ok () ∧
    blackout.layout = Settings.standard.pixelLayout ∧
    Sink.memory.Reliable ∧
    (∀ packet ∈ pushedIn shortFlight,
      packet.payload.length ≤ RecordedEntry.largestPayload) ∧
    ∃ (fresh recording stopped : Pipeline Unit Unit) (finished : FinishedRecording Unit)
      (player playing : Player),
      start Settings.standard blackout () = .ok fresh ∧
      fresh.startRecording Sink.memory () ⟨0⟩ = (recording, .ok ()) ∧
      (recording.run shortFlight).stopRecording = (stopped, some finished) ∧
      stopped.shutdown.1.navigation.state.published = [hoveringRecord] ∧
      Player.create 1.0 = .ok player ∧
      player.play ⟨0⟩ (.ofBytes finished.output.received) = .ok playing ∧
      (playing.runUntil (.ofMilliseconds 1)).currentState = .finished ∧
      stopped.shutdown.1.SameTelemetry
        (fresh.run
          ((playing.runUntil (.ofMilliseconds 1)).offered.map PipelineOperation.push)).shutdown.1 := by
  have validRate : Playback.isValidRate 1.0 = true := by
    decide +kernel
  have valid : Settings.standard.validate = .ok () := by
    simp [Settings.validate, Settings.standard, validRate]
  have small : ∀ packet ∈ pushedIn shortFlight,
      packet.payload.length ≤ RecordedEntry.largestPayload := by
    decide +kernel
  have matching : blackout.layout = Settings.standard.pixelLayout := rfl
  obtain ⟨fresh, recording, stopped, finished, starts, tapped, ends, records, plays, same⟩ :=
    recorded_telemetry_replays valid matching Sink.memory_reliable () () ⟨0⟩ small
  have decoded : (pushedIn shortFlight).filterMap NavigationWorker.recordIn? =
      [hoveringRecord] := by
    decide +kernel
  rw [decoded] at records
  have created : Player.create 1.0 =
      .ok { rate := 1.0, state := .idle, playback := none, reports := [] } := by
    simp only [Player.create, validRate, if_true]
  have timed : ∀ entry ∈ Recorder.entriesOf ⟨0⟩ (pushedIn shortFlight),
      Playback.delay? 1.0 ⟨0⟩ entry.offset = some entry.offset ∧
      entry.offset.nanoseconds < (Duration.ofMilliseconds 1).nanoseconds := by
    decide +kernel
  obtain ⟨playing, started, ended⟩ := plays 1.0 _ ⟨0⟩ (fun _ => .whole) created (by
    intro entry member
    rw [(timed entry member).1]
    rfl)
  have played := ended (.ofMilliseconds 1) (by
    intro entry member delay due
    rw [(timed entry member).1] at due
    obtain rfl := Option.some.inj due
    exact (timed entry member).2)
  refine ⟨valid, matching, Sink.memory_reliable, small, fresh, recording, stopped, finished, _,
    playing, starts, tapped, ends, records, created, started, played.finished, ?_⟩
  refine same 1.0 _ playing ⟨0⟩ (fun _ => .whole) _ created started played.finished _ ?_
  rw [pushedIn, List.filterMap_map]
  exact List.filterMap_some

end Pipeline

end DroneSession
