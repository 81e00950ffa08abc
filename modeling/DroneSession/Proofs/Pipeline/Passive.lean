import DroneSession.Proofs.Pipeline.Replay

namespace DroneSession

/-!
# Recording is passive

Recordings are started and stopped between and during the pushes of packets, and their sinks may
fail at any write.  Whatever they do, the decoding workers take the same packets and answer the same
as without any recording, so the pipeline publishes the same telemetry and hands back its decoder in
the same state.
-/

/-- Something that only recordings have part in. -/
inductive RecordingEvent (ω : Type) where
  | start (sink : Sink ω) (state : ω) (started : Instant)
  | startFile (sink : Sink ω) (state : ω) (path : String) (started : Instant)
  | stop
  /-- The thread of the recorder takes a message. -/
  | consume
  /-- The thread of the recorder leaves its loop behind. -/
  | close

/-- One step of a session whose decoding workers drain their queues after each push. -/
inductive SessionStep (ω : Type) where
  | recording (event : RecordingEvent ω)
  /-- A packet is pushed, and recordings go on between its tap and its decoder. -/
  | push (packet : Packet) (meanwhile : List (RecordingEvent ω))

/-- The same step without any recording. -/
def SessionStep.unrecorded? {ω : Type} : SessionStep ω → Option (SessionStep ω)
  | .recording _ => none
  | .push packet _ => some (.push packet [])

/-- The same session without any recording. -/
def unrecorded {ω : Type} (steps : List (SessionStep ω)) : List (SessionStep ω) :=
  steps.filterMap SessionStep.unrecorded?

/-- The packets that are pushed in a session. -/
def packetsOf {ω : Type} (steps : List (SessionStep ω)) : List Packet :=
  steps.filterMap fun step =>
    match step with
    | .recording _ => none
    | .push packet _ => some packet

namespace Pipeline

variable {δ ω : Type}

/-- The pipeline after something that recordings have part in. -/
def meet (pipeline : Pipeline δ ω) : RecordingEvent ω → Pipeline δ ω
  | .start sink state started => (pipeline.startRecording sink state started).1
  | .startFile sink state path started =>
      (pipeline.startRecordingFile sink state path started).1
  | .stop => pipeline.stopRecording.1
  | .consume => pipeline.act .recorder .consume
  | .close => pipeline.act .recorder .close

/-- Run the decoding workers until they wait. -/
def drain (pipeline : Pipeline δ ω) : Pipeline δ ω :=
  { pipeline with
    navigation := pipeline.navigation.settle
    video := pipeline.video.settle }

/-- Push a packet while recordings go on, and let the decoding workers drain their queues. -/
def pushDuring
    (pipeline : Pipeline δ ω)
    (packet : Packet)
    (meanwhile : List (RecordingEvent ω)) :
    Pipeline δ ω × Bool :=
  let (pushed, accepted) := (meanwhile.foldl meet (pipeline.tap packet)).forward packet
  (pushed.drain, accepted)

/-- With nothing between tap and decoder this is a push. -/
theorem pushDuring_nil
    (pipeline : Pipeline δ ω)
    (packet : Packet) :
    pipeline.pushDuring packet [] =
      ((pipeline.push packet).1.drain, (pipeline.push packet).2) :=
  rfl

/-- A session: the pipeline at its end, and the answers that the pushes were given. -/
def session
    (pipeline : Pipeline δ ω) :
    List (SessionStep ω) → Pipeline δ ω × List Bool
  | [] => (pipeline, [])
  | .recording event :: steps => (pipeline.meet event).session steps
  | .push packet meanwhile :: steps =>
      let (pushed, accepted) := pipeline.pushDuring packet meanwhile
      let (ended, answers) := pushed.session steps
      (ended, accepted :: answers)

/-! ## What recordings leave alone -/

/-- Two pipelines whose decoding workers are the same, whatever has become of their recordings. -/
structure SameDecoding (first second : Pipeline δ ω) : Prop where
  navigation : first.navigation = second.navigation
  video : first.video = second.video

theorem SameDecoding.refl (pipeline : Pipeline δ ω) : pipeline.SameDecoding pipeline :=
  ⟨rfl, rfl⟩

theorem SameDecoding.symm
    {first second : Pipeline δ ω}
    (same : first.SameDecoding second) :
    second.SameDecoding first :=
  ⟨same.navigation.symm, same.video.symm⟩

theorem SameDecoding.trans
    {first second third : Pipeline δ ω}
    (firstSecond : first.SameDecoding second)
    (secondThird : second.SameDecoding third) :
    first.SameDecoding third :=
  ⟨firstSecond.navigation.trans secondThird.navigation,
    firstSecond.video.trans secondThird.video⟩

/-- Stopping a recording leaves the decoding workers alone. -/
theorem sameDecoding_stopRecording (pipeline : Pipeline δ ω) :
    pipeline.stopRecording.1.SameDecoding pipeline :=
  ⟨pipeline.stopRecording_decoding.1, pipeline.stopRecording_decoding.2⟩

/-- Reaping a recorder that has stopped by itself leaves the decoding workers alone. -/
theorem sameDecoding_reap (pipeline : Pipeline δ ω) :
    pipeline.reap.SameDecoding pipeline := by
  unfold reap
  cases pipeline.recording with
  | none => exact .refl pipeline
  | some recording =>
      dsimp only
      split
      · exact .refl pipeline
      · exact pipeline.sameDecoding_stopRecording

/-- A recorder is attached or refused, and one that has died is reaped before. -/
theorem sameDecoding_attach
    (pipeline : Pipeline δ ω)
    (sink : Sink ω)
    (state : ω)
    (file : Option String)
    (started : Instant) :
    (pipeline.attach sink state file started).1.SameDecoding pipeline := by
  refine SameDecoding.trans ?_ pipeline.sameDecoding_reap
  dsimp only [attach]
  cases pipeline.reap.recording with
  | some recording => exact .refl _
  | none =>
      dsimp only
      cases (Recorder.create sink state started).start with
      | error error => exact .refl _
      | ok worker => exact ⟨rfl, rfl⟩

/-- Starting a recording into a file leaves the decoding workers alone, even if it fails. -/
theorem sameDecoding_startRecordingFile
    (pipeline : Pipeline δ ω)
    (sink : Sink ω)
    (state : ω)
    (path : String)
    (started : Instant) :
    (pipeline.startRecordingFile sink state path started).1.SameDecoding pipeline := by
  dsimp only [startRecordingFile]
  cases pipeline.files.create (recordingPath path) with
  | error fault => exact .refl pipeline
  | ok created =>
      have attached := { pipeline with files := created.1 }.sameDecoding_attach sink state
        (some created.2) started
      dsimp only
      generalize { pipeline with files := created.1 }.attach sink state (some created.2) started =
        result at attached ⊢
      rcases result with ⟨next, error | ⟨⟨⟩⟩⟩
      · exact attached.trans ⟨rfl, rfl⟩
      · exact attached.trans ⟨rfl, rfl⟩

/-- Nothing that a recording does reaches the decoding workers. -/
theorem sameDecoding_meet
    (pipeline : Pipeline δ ω)
    (event : RecordingEvent ω) :
    (pipeline.meet event).SameDecoding pipeline := by
  cases event with
  | start sink state started => exact pipeline.sameDecoding_attach sink state none started
  | startFile sink state path started =>
      exact pipeline.sameDecoding_startRecordingFile sink state path started
  | stop => exact pipeline.sameDecoding_stopRecording
  | consume => exact ⟨rfl, rfl⟩
  | close => exact ⟨rfl, rfl⟩

/-- Whatever happens to recordings, the decoding workers are left alone. -/
theorem sameDecoding_meetAll
    (pipeline : Pipeline δ ω)
    (events : List (RecordingEvent ω)) :
    (events.foldl meet pipeline).SameDecoding pipeline := by
  induction events generalizing pipeline with
  | nil => exact .refl pipeline
  | cons event events inductionHypothesis =>
      exact (inductionHypothesis (pipeline.meet event)).trans (pipeline.sameDecoding_meet event)

/-! ## Two sessions -/

/-- Whether a packet is accepted, and what becomes of it, is up to the decoding workers alone. -/
theorem SameDecoding.forward
    {first second : Pipeline δ ω}
    (same : first.SameDecoding second)
    (packet : Packet) :
    (first.forward packet).2 = (second.forward packet).2 ∧
      (first.forward packet).1.SameDecoding (second.forward packet).1 := by
  dsimp only [Pipeline.forward]
  rw [same.navigation, same.video]
  cases packet.kind with
  | navigation => exact ⟨rfl, rfl, rfl⟩
  | video => exact ⟨rfl, rfl, rfl⟩

/--
Pipelines that decode the same still do when their decoding workers have drained their queues.
-/
theorem SameDecoding.drain
    {first second : Pipeline δ ω}
    (same : first.SameDecoding second) :
    first.drain.SameDecoding second.drain where
  navigation := congrArg Worker.settle same.navigation
  video := congrArg Worker.settle same.video

/-- A push with a recording going on answers as one without, and decodes the same. -/
theorem SameDecoding.pushDuring
    {first second : Pipeline δ ω}
    (same : first.SameDecoding second)
    (packet : Packet)
    (meanwhile : List (RecordingEvent ω)) :
    (first.pushDuring packet meanwhile).2 = (second.pushDuring packet []).2 ∧
      (first.pushDuring packet meanwhile).1.SameDecoding (second.pushDuring packet []).1 := by
  have tapped : (first.tap packet).SameDecoding (second.tap packet) :=
    ⟨same.navigation, same.video⟩
  -- Recordings go on behind the tap in the first session only.
  have met := ((first.tap packet).sameDecoding_meetAll meanwhile).trans tapped
  obtain ⟨answer, forwarded⟩ := met.forward packet
  exact ⟨answer, forwarded.drain⟩

/-- A session and the same session without recordings answer alike and decode the same. -/
theorem SameDecoding.session
    {first second : Pipeline δ ω}
    (same : first.SameDecoding second)
    (steps : List (SessionStep ω)) :
    (first.session steps).2 = (second.session (unrecorded steps)).2 ∧
      (first.session steps).1.SameDecoding (second.session (unrecorded steps)).1 := by
  induction steps generalizing first second with
  | nil => exact ⟨rfl, same⟩
  | cons step steps inductionHypothesis =>
      cases step with
      | recording event =>
          exact inductionHypothesis ((first.sameDecoding_meet event).trans same)
      | push packet meanwhile =>
          obtain ⟨answer, pushed⟩ := same.pushDuring packet meanwhile
          obtain ⟨answers, ended⟩ := inductionHypothesis pushed
          exact ⟨List.cons_eq_cons.mpr ⟨answer, answers⟩, ended⟩

/-- What a shutdown publishes is up to the decoding workers. -/
theorem SameDecoding.shutdown
    {first second : Pipeline δ ω}
    (same : first.SameDecoding second) :
    first.shutdown.1.SameTelemetry second.shutdown.1 := by
  have stopped := (first.sameDecoding_stopRecording.trans same).trans
    second.sameDecoding_stopRecording.symm
  apply SameTelemetry.of_state_eq
  · exact congrArg (fun worker => worker.shutdown.1.state) stopped.navigation
  · exact congrArg (fun worker => worker.shutdown.1.state) stopped.video

/-! ## Decoding in a session -/

/-- A pipeline has decoded what another one that decodes the same has. -/
theorem Decodes.of_sameDecoding
    {decoder : VideoDecoder δ}
    {resync : Bool}
    {state : δ}
    {pushed : List Packet}
    {first second : Pipeline δ ω}
    (decodes : second.Decodes decoder resync state pushed)
    (same : first.SameDecoding second) :
    first.Decodes decoder resync state pushed where
  navigation := same.navigation ▸ decodes.navigation
  video := same.video ▸ decodes.video

/-- Decoding workers that drain their queues have been given the same packets as before. -/
theorem Decodes.drain
    {decoder : VideoDecoder δ}
    {resync : Bool}
    {state : δ}
    {pushed : List Packet}
    {pipeline : Pipeline δ ω}
    (decodes : pipeline.Decodes decoder resync state pushed) :
    pipeline.drain.Decodes decoder resync state pushed where
  navigation := Worker.attends_settle NavigationWorker.handler_rests decodes.navigation
  video := Worker.attends_settle VideoWorker.handler_rests decodes.video

/-- The decoding workers see every packet of a session, whatever is recorded of it. -/
theorem Decodes.session
    {decoder : VideoDecoder δ}
    {resync : Bool}
    {state : δ}
    {pushed : List Packet}
    {pipeline : Pipeline δ ω}
    (decodes : pipeline.Decodes decoder resync state pushed)
    (steps : List (SessionStep ω)) :
    (pipeline.session steps).1.Decodes decoder resync state (pushed ++ packetsOf steps) := by
  induction steps generalizing pipeline pushed with
  | nil =>
      rw [packetsOf, List.filterMap_nil, List.append_nil]
      exact decodes
  | cons step steps inductionHypothesis =>
      cases step with
      | recording event =>
          exact inductionHypothesis (decodes.of_sameDecoding (pipeline.sameDecoding_meet event))
      | push packet meanwhile =>
          have tapped : (pipeline.tap packet).Decodes decoder resync state pushed :=
            ⟨decodes.navigation, decodes.video⟩
          have met := tapped.of_sameDecoding
            ((pipeline.tap packet).sameDecoding_meetAll meanwhile)
          have served := inductionHypothesis (met.forward packet).drain
          rw [List.append_assoc] at served
          exact served

/-- A session without any recording leaves none behind. -/
theorem recording_session_unrecorded
    {pipeline : Pipeline δ ω}
    (free : pipeline.recording = none)
    (steps : List (SessionStep ω)) :
    (pipeline.session (unrecorded steps)).1.recording = none := by
  induction steps generalizing pipeline with
  | nil => exact free
  | cons step steps inductionHypothesis =>
      cases step with
      | recording event => exact inductionHypothesis free
      | push packet meanwhile =>
          have stillFree : (pipeline.pushDuring packet []).1.recording = none := by
            cases kind : packet.kind <;>
              simp [pushDuring, Pipeline.drain, Pipeline.forward, tap, kind, free]
          exact inductionHypothesis stillFree

/-- Two sessions of a pipeline that differ in nothing but what one of them has recorded. -/
structure Unaffected (recorded plain : Pipeline δ ω × List Bool) : Prop where
  /-- Nothing is recorded in the second session. -/
  free : plain.1.recording = none
  /-- Each push was given the same answer. -/
  answers : recorded.2 = plain.2
  /-- The same was published, before the shutdown and after it. -/
  published : recorded.1.SameTelemetry plain.1
  ended : recorded.1.shutdown.1.SameTelemetry plain.1.shutdown.1
  /-- The decoder is handed back, and in the same state. -/
  decoders : ∃ final, recorded.1.shutdown.2 = some final ∧ plain.1.shutdown.2 = some final

/--
Whatever is recorded in a session, into whichever sinks and however these fail, neither the
producers nor the decoding workers can tell.
-/
theorem recording_is_passive
    {settings : Settings}
    {decoder : VideoDecoder δ}
    {state : δ}
    {fresh : Pipeline δ ω}
    (starts : start settings decoder state = .ok fresh)
    (steps : List (SessionStep ω)) :
    Unaffected (fresh.session steps) (fresh.session (unrecorded steps)) := by
  obtain ⟨free, decodes⟩ := decodes_of_start starts
  obtain ⟨answers, same⟩ := (SameDecoding.refl fresh).session steps
  have served := decodes.session steps
  have plainServed := served.of_sameDecoding same.symm
  constructor
  · exact recording_session_unrecorded free steps
  · exact answers
  · exact SameTelemetry.of_state_eq (congrArg Worker.state same.navigation)
      (congrArg Worker.state same.video)
  · exact same.shutdown
  · exact ⟨_, served.shutdown_decoder, plainServed.shutdown_decoder⟩

/-- A session whose recorder fails while a packet is pushed, is reaped and recorded anew. -/
def disturbedFlight : List (SessionStep Unit) :=
  [ .recording (.start (.failing (some ⟨.other, "disk full"⟩) none) () ⟨0⟩),
    .push ⟨.navigation, 3, ⟨2500⟩, Wire.encode hoveringRecord⟩ [.consume],
    .push ⟨.video, 0, ⟨2700⟩, List.replicate 9000 9⟩ [.consume, .close],
    .recording (.start .memory () ⟨2800⟩),
    .push ⟨.video, 1, ⟨2900⟩, [9]⟩ [.stop],
    .push ⟨.navigation, 4, ⟨3000⟩, [1, 2]⟩ [] ]

/-- A session whose recorder fails publishes the record that it would publish without recording. -/
theorem disturbed_flight_unaffected :
    ∃ fresh : Pipeline Unit Unit,
      start Settings.standard blackout () = .ok fresh ∧
      Unaffected (fresh.session disturbedFlight) (fresh.session (unrecorded disturbedFlight)) ∧
      (fresh.session disturbedFlight).1.shutdown.1.navigation.state.published =
        [hoveringRecord] := by
  have validRate : Playback.isValidRate 1.0 = true := by
    decide +kernel
  have valid : Settings.standard.validate = .ok () := by
    simp [Settings.validate, Settings.standard, validRate]
  have matching : blackout.layout = Settings.standard.pixelLayout := rfl
  obtain ⟨fresh, starts, -, decodes⟩ :=
    @start_decodes Unit Unit blackout Settings.standard valid matching ()
  have decoded : (packetsOf disturbedFlight).filterMap NavigationWorker.recordIn? =
      [hoveringRecord] := by
    decide +kernel
  refine ⟨fresh, starts, recording_is_passive starts disturbedFlight, ?_⟩
  rw [(decodes.session disturbedFlight).shutdown.1, navigationServed,
    NavigationWorker.published_serve, filterMap_recordIn?_reaching]
  exact decoded

end Pipeline

end DroneSession
