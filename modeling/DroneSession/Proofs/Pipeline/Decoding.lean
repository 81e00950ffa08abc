import DroneSession.Proofs.Pipeline.Schedule
import DroneSession.Proofs.Recording.Playback

namespace DroneSession

/-!
# What a pipeline decodes

The decoding workers look at nothing but the streams and payloads of packets.  So packets that agree
in these lead to the same records, the same frames and the same decoder, whatever their numbers and
times are and in whichever order the threads take their steps.
-/

namespace Handler

variable {σ : Type}

/-- A handler that looks at nothing but the streams and payloads of packets. -/
def ReadsContent (handler : Handler σ) : Prop :=
  ∀ state first second, Playback.contentOf first = Playback.contentOf second →
    handler.handle state first = handler.handle state second

/-- Packets that agree in streams and payloads are served alike. -/
theorem ReadsContent.serve_congr
    {handler : Handler σ}
    (readsContent : handler.ReadsContent)
    {first second : List Packet}
    (same : first.map Playback.contentOf = second.map Playback.contentOf)
    (state : σ) :
    handler.serve state first = handler.serve state second := by
  induction first generalizing second state with
  | nil =>
      obtain rfl := List.map_eq_nil_iff.mp same.symm
      rfl
  | cons packet first inductionHypothesis =>
      cases second with
      | nil => cases same
      | cons other second =>
          rw [List.map_cons, List.map_cons] at same
          obtain ⟨sameHead, sameTail⟩ := List.cons.inj same
          rw [serve, serve, readsContent state packet other sameHead,
            inductionHypothesis sameTail]

end Handler

namespace NavigationWorker

theorem handler_rests : handler.Rests :=
  fun _ => rfl

theorem handler_readsContent : handler.ReadsContent := by
  intro slot first second same
  obtain ⟨sameKind, samePayload⟩ := Prod.mk.inj same
  change handle slot first = handle slot second
  rw [handle, handle, sameKind, samePayload]

/-- The record in a packet. -/
def recordIn? (packet : Packet) : Option NavigationRecord :=
  match packet.kind with
  | .video => none
  | .navigation => (Wire.decode packet.payload).toOption

/-- A packet adds its record to the slot, and nothing that is malformed ends the service. -/
theorem handle_eq
    (slot : Slot NavigationRecord)
    (packet : Packet) :
    (handler.handle slot packet).2.isFatal = false ∧
      (handler.handle slot packet).1.published = slot.published ++ (recordIn? packet).toList := by
  change (handle slot packet).2.isFatal = false ∧
    (handle slot packet).1.published = slot.published ++ (recordIn? packet).toList
  unfold handle recordIn?
  cases packet.kind with
  | video => simp [HandlerOutcome.isFatal, SessionError.isAbsorbed]
  | navigation =>
      cases Wire.decode packet.payload with
      | ok record => simp [HandlerOutcome.isFatal, Except.toOption]
      | error fault =>
          simp [HandlerOutcome.isFatal, SessionError.isAbsorbed, Wire.Fault.toError,
            Except.toOption]

/-- The records of the packets that are served are published, in their order. -/
theorem published_serve
    (slot : Slot NavigationRecord)
    (packets : List Packet) :
    (handler.serve slot packets).published =
      slot.published ++ packets.filterMap recordIn? := by
  induction packets generalizing slot with
  | nil => simp [Handler.serve]
  | cons packet packets inductionHypothesis =>
      obtain ⟨goesOn, published⟩ := handle_eq slot packet
      rw [Handler.serve, goesOn, if_neg Bool.false_ne_true, inductionHypothesis, published,
        List.append_assoc, List.filterMap_cons]
      cases recordIn? packet <;> rfl

end NavigationWorker

namespace VideoWorker

variable {δ : Type} {decoder : VideoDecoder δ} {resync : Bool}

theorem handler_rests : (handler decoder resync).Rests :=
  fun _ => rfl

theorem handler_readsContent : (handler decoder resync).ReadsContent := by
  intro stage first second same
  obtain ⟨sameKind, samePayload⟩ := Prod.mk.inj same
  change handle decoder resync stage first = handle decoder resync stage second
  rw [handle, handle, sameKind, samePayload]

end VideoWorker

namespace Pipeline

variable {δ ω : Type} {decoder : VideoDecoder δ} {resync : Bool} {state : δ}

/-- The packets among some that go to a worker. -/
def reaching
    (part : PipelinePart)
    (packets : List Packet) :
    List Packet :=
  packets.filter fun packet => part.takes packet.kind

/-- Which packets reach a worker depends on their streams alone. -/
theorem reaching_congr
    (part : PipelinePart)
    {first second : List Packet}
    (same : first.map Playback.contentOf = second.map Playback.contentOf) :
    (reaching part first).map Playback.contentOf =
      (reaching part second).map Playback.contentOf := by
  have byContent : ∀ packets : List Packet,
      (reaching part packets).map Playback.contentOf =
        (packets.map Playback.contentOf).filter fun content => part.takes content.1 := by
    intro packets
    rw [List.filter_map]
    rfl
  rw [byContent, byContent, same]

/-- Packets of the other stream hold no record. -/
theorem filterMap_recordIn?_reaching (packets : List Packet) :
    (reaching .navigation packets).filterMap NavigationWorker.recordIn? =
      packets.filterMap NavigationWorker.recordIn? := by
  rw [reaching, List.filterMap_filter]
  refine congrArg (fun record? => List.filterMap record? packets) (funext ?_)
  intro packet
  cases kind : packet.kind <;>
    simp [PipelinePart.takes, NavigationWorker.recordIn?, kind]

/-- The navigation worker's state when everything that was pushed has been served. -/
def navigationServed (pushed : List Packet) : Slot NavigationRecord :=
  NavigationWorker.handler.serve .empty (reaching .navigation pushed)

/-- The video worker's state when everything that was pushed has been served. -/
def videoServed
    (decoder : VideoDecoder δ)
    (resync : Bool)
    (state : δ)
    (pushed : List Packet) :
    VideoStage δ :=
  (VideoWorker.handler decoder resync).serve
    (VideoWorker.create decoder resync state).state
    (reaching .video pushed)

/-- The decoding workers of a pipeline into which some packets were pushed. -/
structure Decodes
    (decoder : VideoDecoder δ)
    (resync : Bool)
    (state : δ)
    (pushed : List Packet)
    (pipeline : Pipeline δ ω) :
    Prop where
  navigation : pipeline.navigation.Attends NavigationWorker.handler .empty
    (reaching .navigation pushed)
  video : pipeline.video.Attends (VideoWorker.handler decoder resync)
    (VideoWorker.create decoder resync state).state (reaching .video pushed)

/-- With valid settings and a decoder of their layout a pipeline starts. -/
theorem start_decodes
    {settings : Settings}
    (valid : settings.validate = .ok ())
    (matching : decoder.layout = settings.pixelLayout)
    (state : δ) :
    ∃ fresh : Pipeline δ ω, start settings decoder state = .ok fresh ∧
      fresh.recording = none ∧
      fresh.Decodes decoder settings.resyncOnKeyframe state [] := by
  obtain ⟨navigation, navigationStarts, navigationAttends⟩ :=
    Worker.attends_start NavigationWorker.name NavigationWorker.handler .empty
  obtain ⟨video, videoStarts, videoAttends⟩ :=
    Worker.attends_start VideoWorker.name
      (VideoWorker.handler decoder settings.resyncOnKeyframe)
      (VideoWorker.create decoder settings.resyncOnKeyframe state).state
  change NavigationWorker.create.start = .ok navigation at navigationStarts
  change (VideoWorker.create decoder settings.resyncOnKeyframe state).start = .ok video
    at videoStarts
  refine ⟨⟨navigation, video, none, settings.displayRate, .empty, []⟩, ?_, rfl,
    navigationAttends, videoAttends⟩
  simp only [start, valid, matching, if_true, navigationStarts, videoStarts]
  rfl

/-- A pipeline that has started, with whatever settings and decoder, records nothing yet. -/
theorem decodes_of_start
    {settings : Settings}
    {fresh : Pipeline δ ω}
    (starts : start settings decoder state = .ok fresh) :
    fresh.recording = none ∧
      fresh.Decodes decoder settings.resyncOnKeyframe state [] := by
  have valid : settings.validate = .ok () := by
    cases validated : settings.validate with
    | ok => rfl
    | error error =>
        rw [start, validated] at starts
        cases starts
  have matching : decoder.layout = settings.pixelLayout := by
    refine Decidable.byContradiction ?_
    intro other
    simp only [start, valid, if_neg other] at starts
    cases starts
  obtain ⟨same, sameStarts, free, decodes⟩ :=
    @start_decodes δ ω decoder settings valid matching state
  obtain rfl := Except.ok.inj (starts.symm.trans sameStarts)
  exact ⟨free, decodes⟩

/-- A packet that is forwarded joins those that the decoding workers are to decode. -/
theorem Decodes.forward
    {pipeline : Pipeline δ ω}
    {pushed : List Packet}
    (decodes : pipeline.Decodes decoder resync state pushed)
    (packet : Packet) :
    (pipeline.forward packet).1.Decodes decoder resync state (pushed ++ [packet]) := by
  cases kind : packet.kind with
  | navigation =>
      constructor
      · simpa [Pipeline.forward, reaching, PipelinePart.takes, kind]
          using decodes.navigation.enqueue packet
      · simpa [Pipeline.forward, reaching, PipelinePart.takes, kind] using decodes.video
  | video =>
      constructor
      · simpa [Pipeline.forward, reaching, PipelinePart.takes, kind] using decodes.navigation
      · simpa [Pipeline.forward, reaching, PipelinePart.takes, kind]
          using decodes.video.enqueue packet

/-- After a schedule the decoding workers have been given what was pushed. -/
theorem Decodes.run
    {pipeline : Pipeline δ ω}
    {pushed : List Packet}
    (decodes : pipeline.Decodes decoder resync state pushed)
    (schedule : List PipelineOperation) :
    (pipeline.run schedule).Decodes decoder resync state (pushed ++ pushedIn schedule) := by
  constructor
  · have served := decodes.navigation.run NavigationWorker.handler_rests
      (scheduleOf_goesOn .navigation schedule)
    rw [offeredIn_scheduleOf] at served
    rw [navigation_run, reaching, List.filter_append]
    exact served
  · have served := decodes.video.run VideoWorker.handler_rests
      (scheduleOf_goesOn .video schedule)
    rw [offeredIn_scheduleOf] at served
    rw [video_run, reaching, List.filter_append]
    exact served

/-- The end of a recording leaves the decoding workers alone. -/
theorem stopRecording_decoding (pipeline : Pipeline δ ω) :
    pipeline.stopRecording.1.navigation = pipeline.navigation ∧
      pipeline.stopRecording.1.video = pipeline.video := by
  unfold stopRecording
  cases pipeline.recording <;> exact ⟨rfl, rfl⟩

/-- Stopping a recording takes nothing from the decoding workers. -/
theorem Decodes.stopRecording
    {pipeline : Pipeline δ ω}
    {pushed : List Packet}
    (decodes : pipeline.Decodes decoder resync state pushed) :
    pipeline.stopRecording.1.Decodes decoder resync state pushed := by
  obtain ⟨sameNavigation, sameVideo⟩ := pipeline.stopRecording_decoding
  constructor
  · rw [sameNavigation]
    exact decodes.navigation
  · rw [sameVideo]
    exact decodes.video

/-- A pipeline that is shut down has served everything that was pushed into it. -/
theorem Decodes.shutdown
    {pipeline : Pipeline δ ω}
    {pushed : List Packet}
    (decodes : pipeline.Decodes decoder resync state pushed) :
    pipeline.shutdown.1.navigation.state = navigationServed pushed ∧
      pipeline.shutdown.1.video.state = videoServed decoder resync state pushed := by
  obtain ⟨sameNavigation, sameVideo⟩ := pipeline.stopRecording_decoding
  obtain ⟨navigation, navigationEnds, navigationState⟩ :=
    decodes.navigation.shutdown NavigationWorker.handler_rests
  obtain ⟨video, videoEnds, videoState⟩ :=
    decodes.video.shutdown VideoWorker.handler_rests
  constructor
  · change pipeline.stopRecording.1.navigation.shutdown.1.state = _
    rw [sameNavigation, navigationEnds]
    exact navigationState
  · change pipeline.stopRecording.1.video.shutdown.1.state = _
    rw [sameVideo, videoEnds]
    exact videoState

/-- A pipeline that is shut down hands its decoder back. -/
theorem Decodes.shutdown_decoder
    {pipeline : Pipeline δ ω}
    {pushed : List Packet}
    (decodes : pipeline.Decodes decoder resync state pushed) :
    pipeline.shutdown.2 = some (videoServed decoder resync state pushed).decoder := by
  obtain ⟨-, sameVideo⟩ := pipeline.stopRecording_decoding
  obtain ⟨video, videoEnds, -⟩ := decodes.video.shutdown VideoWorker.handler_rests
  change pipeline.stopRecording.1.video.shutdown.2.map VideoStage.decoder = _
  rw [sameVideo, videoEnds]
  rfl

end Pipeline

end DroneSession
