import DroneSession.Proofs.Pipeline.Decoding
import DroneSession.Proofs.Video.Handling
import DroneSession.Proofs.Worker.Quiet

namespace DroneSession

/-!
# Published frames

A packet publishes at most one frame, and `Unpublished` lists every reason for which it publishes
none.  A published frame carries the next number and fits its geometry exactly, so after any run the
frames are numbered from zero without a gap, and the slot shows the last of them.
-/

namespace VideoFrame

/-- A picture is accepted exactly if its buffer has the exact size of its geometry. -/
theorem of_eq_ok_iff
    {number : UInt64}
    {width height : UInt32}
    {layout : PixelLayout}
    {pixels : Bytes}
    {frame : VideoFrame} :
    VideoFrame.of number width height layout pixels = .ok frame ↔
      pixels.length = size width height layout ∧
        pixels.length < UInt64.size ∧
        frame = ⟨number, width, height, layout, pixels⟩ := by
  unfold VideoFrame.of
  dsimp only
  split
  · rename_i tooLarge
    simp only [reduceCtorEq, false_iff, not_and]
    intro exact addressable
    omega
  · split
    · rename_i other
      simp [other]
    · rename_i small matching
      have exact : pixels.length = size width height layout := not_not.mp matching
      simp only [exact, Except.ok.injEq, true_and]
      constructor
      · intro same
        exact ⟨by omega, same.symm⟩
      · intro same
        exact same.2.symm

/-- A size that wraps around to the length of the buffer is refused. -/
example : VideoFrame.of 0 2147483648 2147483648 .bgra32 [] = .error .sizeOverflow :=
  rfl

end VideoFrame

namespace DecodedPicture

/-- The buffer of a picture has the size of its geometry; no buffer in memory fills 64 bits. -/
def Fits
    (picture : DecodedPicture)
    (layout : PixelLayout) :
    Prop :=
  picture.pixels.length = VideoFrame.size picture.width picture.height layout ∧
    picture.pixels.length < UInt64.size

/-- The frame that a picture becomes. -/
def toFrame
    (picture : DecodedPicture)
    (number : UInt64)
    (layout : PixelLayout) :
    VideoFrame where
  number := number
  width := picture.width
  height := picture.height
  layout := layout
  pixels := picture.pixels

end DecodedPicture

namespace VideoWorker

variable {δ : Type} {decoder : VideoDecoder δ} {resync : Bool} {state : δ}

/-! ## One packet -/

/-- A packet holds a unit exactly if it is one of pictures and its payload divides into it. -/
theorem unitIn?_eq_some_iff
    {packet : Packet}
    {unit : VideoUnit} :
    unitIn? packet = some unit ↔
      packet.kind = .video ∧ Framing.parse packet.payload = .ok unit := by
  unfold unitIn?
  cases packet.kind with
  | navigation =>
      simp
  | video =>
      cases Framing.parse packet.payload <;> simp [Except.toOption]

/-- The decoder is handed the unit in a packet, and this is what it makes of it. -/
def Yields
    (decoder : VideoDecoder δ)
    (stage : VideoStage δ)
    (packet : Packet)
    (outcome : DecodeOutcome) :
    Prop :=
  ∃ unit,
    unitIn? packet = some unit ∧
    withholds stage unit = false ∧
    (decoder.decode stage.decoder unit.payload).2 = outcome

/-- A decoder makes one thing of a packet. -/
theorem Yields.unique
    {stage : VideoStage δ}
    {packet : Packet}
    {first second : DecodeOutcome}
    (yields : Yields decoder stage packet first)
    (yieldsToo : Yields decoder stage packet second) :
    first = second := by
  obtain ⟨unit, present, -, rfl⟩ := yields
  obtain ⟨other, presentToo, -, rfl⟩ := yieldsToo
  obtain rfl := Option.some.inj (present.symm.trans presentToo)
  rfl

/-- Why a packet publishes nothing. -/
inductive Unpublished
    (decoder : VideoDecoder δ)
    (stage : VideoStage δ)
    (packet : Packet) :
    Prop where
  | wrongKind
      (kind : packet.kind = .navigation)
  | malformed
      (fault : Framing.Fault)
      (refused : Framing.parse packet.payload = .error fault)
  | withheld
      (unit : VideoUnit)
      (present : unitIn? packet = some unit)
      (waits : withholds stage unit = true)
  | rejected
      (error : SessionError)
      (yields : Yields decoder stage packet (.rejected error))
  | pictureless
      (yields : Yields decoder stage packet .noPicture)
  | panicked
      (message : Option String)
      (yields : Yields decoder stage packet (.panicked message))
  | mismatched
      (picture : DecodedPicture)
      (yields : Yields decoder stage packet (.picture picture))
      (misfit : ¬ picture.Fits decoder.layout)

/-- The frame that a packet publishes. -/
inductive Publishes
    (decoder : VideoDecoder δ)
    (stage : VideoStage δ)
    (packet : Packet) :
    VideoFrame → Prop where
  | picture
      (picture : DecodedPicture)
      (yields : Yields decoder stage packet (.picture picture))
      (fits : picture.Fits decoder.layout) :
      Publishes decoder stage packet (picture.toFrame stage.nextNumber decoder.layout)

/-- A packet that publishes a frame has no reason not to. -/
theorem Publishes.not_unpublished
    {stage : VideoStage δ}
    {packet : Packet}
    {frame : VideoFrame}
    (publishes : Publishes decoder stage packet frame) :
    ¬ Unpublished decoder stage packet := by
  intro unpublished
  cases publishes with
  | picture picture yields fits =>
      obtain ⟨unit, present, passes, outcome⟩ := id yields
      obtain ⟨video, parsed⟩ := unitIn?_eq_some_iff.mp present
      cases unpublished with
      | wrongKind navigation =>
          rw [video] at navigation
          cases navigation
      | malformed fault refused =>
          rw [parsed] at refused
          cases refused
      | withheld other presentToo waits =>
          obtain rfl := Option.some.inj (present.symm.trans presentToo)
          rw [passes] at waits
          cases waits
      | rejected error yieldsToo =>
          cases yields.unique yieldsToo
      | pictureless yieldsToo =>
          cases yields.unique yieldsToo
      | panicked message yieldsToo =>
          cases yields.unique yieldsToo
      | mismatched other yieldsToo misfit =>
          obtain rfl := DecodeOutcome.picture.inj (yields.unique yieldsToo)
          exact misfit fits

/-- Everything that a packet can do to the slot and to the number of the next frame. -/
inductive PublishCase
    (decoder : VideoDecoder δ)
    (stage : VideoStage δ)
    (packet : Packet)
    (next : VideoStage δ) :
    Prop where
  | nothing
      (unpublished : Unpublished decoder stage packet)
      (slot : next.slot = stage.slot)
      (nextNumber : next.nextNumber = stage.nextNumber)
  | frame
      (frame : VideoFrame)
      (publishes : Publishes decoder stage packet frame)
      (slot : next.slot = stage.slot.publish frame)
      (nextNumber : next.nextNumber = stage.nextNumber + 1)

/-- A picture that fits its geometry is published under the next number. -/
theorem publish_of_fits
    {layout : PixelLayout}
    {picture : DecodedPicture}
    (fits : picture.Fits layout)
    (stage : VideoStage δ) :
    (publish layout stage picture).1 =
      { stage with
        nextNumber := stage.nextNumber + 1
        slot := stage.slot.publish (picture.toFrame stage.nextNumber layout) } := by
  have accepted :
      VideoFrame.of stage.nextNumber picture.width picture.height layout picture.pixels =
        .ok (picture.toFrame stage.nextNumber layout) :=
    VideoFrame.of_eq_ok_iff.mpr ⟨fits.1, fits.2, rfl⟩
  rw [publish, accepted]

/-- A picture that does not fit its geometry is not published, and takes no number. -/
theorem publish_of_misfit
    {layout : PixelLayout}
    {picture : DecodedPicture}
    (misfit : ¬ picture.Fits layout)
    (stage : VideoStage δ) :
    (publish layout stage picture).1 = stage := by
  unfold publish
  split
  · rename_i frame accepted
    obtain ⟨exact, addressable, -⟩ := VideoFrame.of_eq_ok_iff.mp accepted
    exact absurd ⟨exact, addressable⟩ misfit
  · rfl

/-- A unit that is decoded publishes a frame, or there is a reason that it does not. -/
theorem publishCase_decodeUnit
    {stage : VideoStage δ}
    {packet : Packet}
    {unit : VideoUnit}
    (present : unitIn? packet = some unit)
    (passes : withholds stage unit = false)
    (awaiting : Bool) :
    PublishCase decoder stage packet
      (decodeUnit decoder resync { stage with awaitingKeyframe := awaiting } unit).1 := by
  unfold decodeUnit
  rcases decoded : decoder.decode stage.decoder unit.payload with ⟨state, outcome⟩
  have yields : Yields decoder stage packet outcome :=
    ⟨unit, present, passes, by rw [decoded]⟩
  cases outcome with
  | picture picture =>
      by_cases fits : picture.Fits decoder.layout
      · dsimp only
        rw [publish_of_fits fits]
        exact .frame _ (.picture picture yields fits) rfl rfl
      · dsimp only
        rw [publish_of_misfit fits]
        exact .nothing (.mismatched picture yields fits) rfl rfl
  | noPicture =>
      exact .nothing (.pictureless yields) rfl rfl
  | rejected error =>
      exact .nothing (.rejected error yields) rfl rfl
  | panicked message =>
      exact .nothing (.panicked message yields) rfl rfl

/-- Every packet publishes one frame, or there is a reason that it does not. -/
theorem publishCase
    (stage : VideoStage δ)
    (packet : Packet) :
    PublishCase decoder stage packet (handle decoder resync stage packet).1 := by
  have handled := @handleCase _ decoder resync stage packet
  generalize handle decoder resync stage packet = result at handled ⊢
  cases handled with
  | dropped absent error absorbed =>
      refine .nothing ?_ rfl rfl
      cases kind : packet.kind with
      | navigation =>
          exact .wrongKind kind
      | video =>
          cases parsed : Framing.parse packet.payload with
          | error fault =>
              exact .malformed fault parsed
          | ok unit =>
              rw [unitIn?_eq_some_iff.mpr ⟨kind, parsed⟩] at absent
              cases absent
  | withheld unit present waits =>
      exact .nothing (.withheld unit present waits) rfl rfl
  | decoded unit present passes =>
      exact publishCase_decodeUnit present passes _

/-- A packet publishes no other frame than the one that its picture becomes. -/
theorem Publishes.unique
    {stage : VideoStage δ}
    {packet : Packet}
    {frame other : VideoFrame}
    (publishes : Publishes decoder stage packet frame)
    (publishesToo : Publishes decoder stage packet other) :
    frame = other := by
  cases publishes with
  | picture picture yields fits =>
      cases publishesToo with
      | picture same yieldsToo fitsToo =>
          obtain rfl := DecodeOutcome.picture.inj (yields.unique yieldsToo)
          rfl

/-- A packet that publishes nothing leaves the slot as it is. -/
theorem slot_of_unpublished
    {stage : VideoStage δ}
    {packet : Packet}
    (unpublished : Unpublished decoder stage packet) :
    (handle decoder resync stage packet).1.slot = stage.slot := by
  have handled := @publishCase _ decoder resync stage packet
  cases handled with
  | nothing reason slot nextNumber =>
      exact slot
  | frame frame publishes slot nextNumber =>
      exact absurd unpublished publishes.not_unpublished

/-- A packet that publishes a frame adds it to the slot. -/
theorem slot_of_publishes
    {stage : VideoStage δ}
    {packet : Packet}
    {frame : VideoFrame}
    (publishes : Publishes decoder stage packet frame) :
    (handle decoder resync stage packet).1.slot = stage.slot.publish frame := by
  have handled := @publishCase _ decoder resync stage packet
  cases handled with
  | nothing unpublished slot nextNumber =>
      exact absurd unpublished publishes.not_unpublished
  | frame other publishesToo slot nextNumber =>
      rwa [publishes.unique publishesToo]

/-! ## Any number of packets -/

/-- The frames that a stage has published are numbered from zero and fit their geometry. -/
structure Numbered
    (decoder : VideoDecoder δ)
    (stage : VideoStage δ) :
    Prop where
  numbers :
    stage.slot.published.map VideoFrame.number =
      (List.range stage.slot.published.length).map UInt64.ofNat
  next : stage.nextNumber = UInt64.ofNat stage.slot.published.length
  sized :
    ∀ frame ∈ stage.slot.published,
      frame.layout = decoder.layout ∧
        frame.pixels.length = VideoFrame.size frame.width frame.height decoder.layout

/-- A stage that has published nothing starts with the number zero. -/
theorem numbered_create
    (decoder : VideoDecoder δ)
    (resync : Bool)
    (state : δ) :
    Numbered decoder (create decoder resync state).state where
  numbers := rfl
  next := rfl
  sized := by
    intro frame member
    cases member

/-- A frame that is published under the next number continues the numbering. -/
theorem Numbered.publish
    {stage next : VideoStage δ}
    {packet : Packet}
    {frame : VideoFrame}
    (numbered : Numbered decoder stage)
    (publishes : Publishes decoder stage packet frame)
    (slot : next.slot = stage.slot.publish frame)
    (nextNumber : next.nextNumber = stage.nextNumber + 1) :
    Numbered decoder next := by
  cases publishes with
  | picture picture yields fits =>
      constructor
      · simp [slot, List.range_succ, numbered.numbers, DecodedPicture.toFrame, numbered.next]
      · simp [slot, nextNumber, numbered.next]
      · intro other member
        simp only [slot, Slot.published_publish, List.mem_append, List.mem_singleton] at member
        rcases member with earlier | last
        · exact numbered.sized other earlier
        · subst last
          exact ⟨rfl, fits.1⟩

/-- Whatever a packet does, the frames stay numbered. -/
theorem Numbered.handle
    {stage : VideoStage δ}
    (numbered : Numbered decoder stage)
    (packet : Packet) :
    Numbered decoder (VideoWorker.handle decoder resync stage packet).1 := by
  have handled := @publishCase _ decoder resync stage packet
  generalize (VideoWorker.handle decoder resync stage packet).1 = next at handled ⊢
  cases handled with
  | nothing unpublished slot nextNumber =>
      constructor
      · rw [slot]
        exact numbered.numbers
      · rw [slot, nextNumber]
        exact numbered.next
      · rw [slot]
        exact numbered.sized
  | frame frame publishes slot nextNumber =>
      exact numbered.publish publishes slot nextNumber

/-- However many packets were handled, the frames are numbered. -/
theorem numbered_handleAll
    (state : δ)
    (packets : List Packet) :
    Numbered decoder
      ((handler decoder resync).handleAll (create decoder resync state).state packets) := by
  induction packets using List.reverseRecOn with
  | nil =>
      exact numbered_create decoder resync state
  | append_singleton packets packet inductionHypothesis =>
      rw [Handler.handleAll_concat]
      exact inductionHypothesis.handle packet

/-! ## Every run -/

/-- The traffic of a video worker after some steps of everybody. -/
def traffic
    (decoder : VideoDecoder δ)
    (resync : Bool)
    (state : δ)
    (steps : List TrafficStep) :
    Traffic (VideoStage δ) :=
  (Traffic.fresh name (handler decoder resync) (create decoder resync state).state).run steps

/-- The stage of a worker is what its packets have made of it. -/
theorem state_traffic
    (decoder : VideoDecoder δ)
    (resync : Bool)
    (state : δ)
    (steps : List TrafficStep) :
    (traffic decoder resync state steps).worker.state =
      (handler decoder resync).handleAll (create decoder resync state).state
        (traffic decoder resync state steps).handled :=
  Traffic.state_run handler_rests _ _ steps

theorem traffic_concat
    (decoder : VideoDecoder δ)
    (resync : Bool)
    (state : δ)
    (steps : List TrafficStep)
    (step : TrafficStep) :
    traffic decoder resync state (steps ++ [step]) =
      (traffic decoder resync state steps).perform step :=
  Traffic.run_append _ steps [step]

/-- The thread changes the stage only by handing a packet over. -/
theorem state_perform_of_idle
    {steps : List TrafficStep}
    {step : TrafficStep}
    (idle : step ≠ .consume ∨
      (traffic decoder resync state steps).worker.nextPacket? = none) :
    ((traffic decoder resync state steps).perform step).worker.state =
      (traffic decoder resync state steps).worker.state := by
  have handled :
      ((traffic decoder resync state steps).perform step).handled =
        (traffic decoder resync state steps).handled := by
    by_cases taken : step = .consume
    · subst taken
      simp [Traffic.perform, idle.resolve_left (by simp)]
    · exact Traffic.handled_perform_of_ne_consume _ taken
  rw [state_traffic, ← traffic_concat, state_traffic, traffic_concat, handled]

/-- Taking a packet makes of the stage what the packet makes of it. -/
theorem state_perform_consume
    {steps : List TrafficStep}
    {packet : Packet}
    (next : (traffic decoder resync state steps).worker.nextPacket? = some packet) :
    ((traffic decoder resync state steps).perform .consume).worker.state =
      (handle decoder resync (traffic decoder resync state steps).worker.state packet).1 := by
  have carries :=
    Traffic.carries_run name (handler decoder resync) (create decoder resync state).state steps
  have taken := Worker.state_consume next
  rw [traffic] at taken
  rw [carries.work] at taken
  exact taken

/-- What a video worker has published at some point of a run, and how the next step adds to it. -/
structure PublishesFrames
    (decoder : VideoDecoder δ)
    (traffic : Traffic (VideoStage δ)) :
    Prop where
  /-- The frames are numbered one after another, by a counter of 64 bits that starts at zero. -/
  numbered :
    traffic.worker.state.slot.published.map VideoFrame.number =
      (List.range traffic.worker.state.slot.published.length).map UInt64.ofNat
  counted :
    ∀ {index frame},
      traffic.worker.state.slot.published[index]? = some frame →
      index < UInt64.size →
      frame.number.toNat = index
  latest :
    traffic.worker.state.slot.latest? = traffic.worker.state.slot.published.getLast?
  sized :
    ∀ frame ∈ traffic.worker.state.slot.published,
      frame.layout = decoder.layout ∧
        frame.pixels.length =
          frame.width.toNat * frame.height.toNat * decoder.layout.bytesPerPixel
  decided :
    ∀ packet,
      Unpublished decoder traffic.worker.state packet ∨
        ∃ frame, Publishes decoder traffic.worker.state packet frame
  untouched :
    ∀ packet,
      traffic.worker.nextPacket? = some packet →
      Unpublished decoder traffic.worker.state packet →
      (traffic.perform .consume).worker.state.slot = traffic.worker.state.slot
  written :
    ∀ packet frame,
      traffic.worker.nextPacket? = some packet →
      Publishes decoder traffic.worker.state packet frame →
      (traffic.perform .consume).worker.state.slot = traffic.worker.state.slot.publish frame
  /-- Nothing but a packet that the thread takes reaches the slot. -/
  kept :
    ∀ step,
      step ≠ .consume ∨ traffic.worker.nextPacket? = none →
      (traffic.perform step).worker.state.slot = traffic.worker.state.slot
  /-- Of the buffers that fit into memory exactly those of the exact size are accepted. -/
  accepted :
    ∀ number width height layout pixels,
      pixels.length < UInt64.size →
      ((∃ frame, VideoFrame.of number width height layout pixels = .ok frame) ↔
        width.toNat * height.toNat * layout.bytesPerPixel = pixels.length)

/-- The number of a frame is its place in the slot. -/
theorem Numbered.number_eq
    {stage : VideoStage δ}
    (numbered : Numbered decoder stage)
    {index : Nat}
    {frame : VideoFrame}
    (found : stage.slot.published[index]? = some frame)
    (small : index < UInt64.size) :
    frame.number.toNat = index := by
  have within : index < stage.slot.published.length :=
    (List.getElem?_eq_some_iff.mp found).1
  have same := congrArg (fun numbers => numbers[index]?) numbered.numbers
  simp only [List.getElem?_map, found, Option.map_some, List.getElem?_range within,
    Option.some.injEq] at same
  rw [same]
  exact UInt64.toNat_ofNat_of_lt small

/-- Whatever packets arrive and whatever the decoder does, the frames are exact and consecutive. -/
theorem publishes_frames
    (decoder : VideoDecoder δ)
    (resync : Bool)
    (state : δ)
    (steps : List TrafficStep) :
    PublishesFrames decoder (traffic decoder resync state steps) := by
  have numbered : Numbered decoder (traffic decoder resync state steps).worker.state := by
    rw [state_traffic]
    exact numbered_handleAll state _
  refine
    { numbered := numbered.numbers
      counted := numbered.number_eq
      latest := Slot.latest?_eq_getLast? _
      sized := numbered.sized
      decided := ?_
      untouched := ?_
      written := ?_
      kept := ?_
      accepted := ?_ }
  · intro packet
    have handled := @publishCase _ decoder resync
      (traffic decoder resync state steps).worker.state packet
    cases handled with
    | nothing unpublished slot nextNumber =>
        exact .inl unpublished
    | frame frame publishes slot nextNumber =>
        exact .inr ⟨frame, publishes⟩
  · intro packet next unpublished
    rw [state_perform_consume next]
    exact slot_of_unpublished unpublished
  · intro packet frame next publishes
    rw [state_perform_consume next]
    exact slot_of_publishes publishes
  · intro step idle
    rw [state_perform_of_idle idle]
  · intro number width height layout pixels addressable
    constructor
    · rintro ⟨frame, accepted⟩
      exact (VideoFrame.of_eq_ok_iff.mp accepted).1.symm
    · intro exact
      exact ⟨_, VideoFrame.of_eq_ok_iff.mpr ⟨exact.symm, addressable, rfl⟩⟩

end VideoWorker

end DroneSession
