import DroneSession.Proofs.Recording.Playback
import DroneSession.Proofs.Recording.Recorder
import DroneSession.Proofs.Recording.Tick

namespace DroneSession

/-!
# Recording a session and playing it back

The layers meet here: the worker hands every accepted packet to the recorder, the recorder writes
the entries of those that are not too large, a reader finds these entries in the sink, and a player
offers them again with their streams and payloads, under numbers of its own.
-/

/-- What a recording keeps of a packet: its stream, its whole ticks of 100 ns and its payload. -/
def Packet.recordedSince
    (started : Instant)
    (packet : Packet) :
    PacketKind × Nat × Bytes :=
  (packet.kind,
    min ((packet.timestamp.nanoseconds - started.nanoseconds).toNat / 100) (UInt64.size - 1),
    packet.payload)

/-- What an entry says. -/
def RecordedEntry.reading (entry : RecordedEntry) : PacketKind × Nat × Bytes :=
  (entry.kind, entry.ticks.toNat, entry.payload)

/-- Bytes that read as some entries and then as the end, however they are delivered. -/
def ReadsBack
    (bytes : Bytes)
    (entries : List RecordedEntry) :
    Prop :=
  ∀ (schedule : Nat → Delivery) (count : Nat),
    ((RecordingReader.ofSource (.scheduled bytes schedule none)).nextMany
        (entries.length + count)).2 =
      entries.map (fun entry => .ok (some entry)) ++ List.replicate count (.ok none)

/-- A player that has offered some entries in order and has finished. -/
structure Player.HasPlayed
    (entries : List RecordedEntry)
    (player : Player) :
    Prop where
  finished : player.currentState = .finished
  reported : player.notifications = [.playbackFinished entries.length]
  offered : player.offered.map Playback.contentOf = entries.map RecordedEntry.content
  consecutive : ∀ kind, Consecutive kind player.offered

/--
Bytes that every player plays to their end as some entries, if it can time each of them; it has come
to the end when no delay is left to wait for.
-/
def PlaysBack
    (bytes : Bytes)
    (entries : List RecordedEntry) :
    Prop :=
  ∀ (rate : Float) (player : Player) (resumed : Instant) (schedule : Nat → Delivery),
    Player.create rate = .ok player →
    (∀ entry ∈ entries, (Playback.delay? rate resumed entry.offset).isSome) →
    ∃ playing,
      player.play resumed (.ofSource (.scheduled bytes schedule none)) = .ok playing ∧
      ∀ horizon : Duration,
        (∀ entry ∈ entries, ∀ delay,
          Playback.delay? rate resumed entry.offset = some delay →
          delay.nanoseconds < horizon.nanoseconds) →
        (playing.runUntil horizon).HasPlayed entries

/-- A session of a recorder: what it accepts, what it reports and what its recording holds. -/
structure Recorder.Reproduces
    {ω : Type}
    (started : Instant)
    (before after : List WorkerOperation)
    (worker : Worker (RecordingStage ω)) :
    Prop where
  accepted : worker.accepted before = before.filterMap WorkerOperation.packet?
  running : (worker.run before).stage = .running
  silent : (worker.run before).notifications = []
  replayed : ∃ ended stage entries,
    ((worker.run before).stop.run after).settle.join = (ended, some stage) ∧
    ended.notifications = [] ∧
    entries.map RecordedEntry.reading =
      ((worker.accepted before).filter isRecordable).map (Packet.recordedSince started) ∧
    ReadsBack stage.output.received entries ∧
    PlaysBack stage.output.received entries

/-- Two entries that say the same are the same. -/
theorem RecordedEntry.reading_injective
    (first second : RecordedEntry)
    (same : first.reading = second.reading) :
    first = second := by
  obtain ⟨kind, ticks, payload⟩ := first
  obtain ⟨otherKind, otherTicks, otherPayload⟩ := second
  simp only [reading, Prod.mk.injEq, UInt64.toNat_inj] at same
  obtain ⟨rfl, rfl, rfl⟩ := same
  rfl

/-- The encodings of writable entries read back however they are delivered. -/
theorem readsBack_encodings
    {entries : List RecordedEntry}
    (writable : ∀ entry ∈ entries, entry.isWritable = true) :
    ReadsBack (entries.flatMap RecordedEntry.encode) entries := by
  intro schedule count
  exact (RecordingReader.holds_scheduled _ schedule).nextMany writable count

/-- A player that has just been created is idle and has nothing to report. -/
theorem Player.eq_of_create
    {rate : Float}
    {player : Player}
    (created : create rate = .ok player) :
    player = { rate := rate, state := .idle, playback := none, reports := [] } := by
  unfold create at created
  split at created
  · exact (Except.ok.inj created).symm
  · cases created

/-- The encodings of writable entries are played to their end. -/
theorem playsBack_encodings
    {entries : List RecordedEntry}
    (writable : ∀ entry ∈ entries, entry.isWritable = true) :
    PlaysBack (entries.flatMap RecordedEntry.encode) entries := by
  intro rate player resumed schedule created representable
  obtain rfl := Player.eq_of_create created
  refine ⟨_, rfl, ?_⟩
  intro horizon behind
  let playback := Playback.start rate resumed
    (.ofSource (.scheduled (entries.flatMap RecordedEntry.encode) schedule none))
  have awaits : playback.Awaits horizon entries := by
    refine ⟨Playback.reads_start writable rate resumed schedule, ?_⟩
    intro entry member
    obtain ⟨delay, due⟩ := Option.isSome_iff_exists.mp (representable entry member)
    exact ⟨delay, due, behind entry member delay due⟩
  have enough : 2 * entries.length + 1 ≤
      2 * ((entries.flatMap RecordedEntry.encode).length + 2) := by
    have shorter := length_le_length_encodings entries
    omega
  obtain ⟨finished, ⟨packets, offered, contents⟩, reported, consecutive⟩ :=
    awaits.runSteps enough
  have fromStart : (playback.runSteps horizon
      (2 * ((entries.flatMap RecordedEntry.encode).length + 2))).offered = packets := offered
  have count : packets.length = entries.length := by
    rw [← List.length_map (f := Playback.contentOf), contents, List.length_map]
  refine ⟨finished, ?_, ?_, consecutive⟩
  · rw [fromStart, count] at reported
    exact reported
  · rw [← contents, ← fromStart]
    rfl

/-- A player that has come to the end of some entries has offered them all, in order. -/
theorem offered_of_finished
    {entries : List RecordedEntry}
    (writable : ∀ entry ∈ entries, entry.isWritable = true)
    {rate : Float}
    {player playing : Player}
    {resumed : Instant}
    {schedule : Nat → Delivery}
    (created : Player.create rate = .ok player)
    (started : player.play resumed
      (.ofSource (.scheduled (entries.flatMap RecordedEntry.encode) schedule none)) = .ok playing)
    {horizon : Duration}
    (finished : (playing.runUntil horizon).currentState = .finished) :
    (playing.runUntil horizon).offered.map Playback.contentOf =
      entries.map RecordedEntry.content := by
  obtain rfl := Player.eq_of_create created
  obtain rfl := Except.ok.inj started
  obtain ⟨packets, offered, contents⟩ :=
    (Playback.reads_start writable rate resumed schedule).offered_of_finished finished
  rw [← contents]
  exact congrArg (List.map Playback.contentOf) offered

namespace Recorder

/-- The entry of a packet says what a recording keeps of the packet. -/
theorem reading_entryOf
    (started : Instant)
    (packet : Packet) :
    (entryOf started packet).reading = packet.recordedSince started := by
  rw [RecordedEntry.reading, Packet.recordedSince, entryOf, Tick.toNat_ofDuration_since]

/--
A recorder whose sink never fails takes whatever arrives before its stop, in any order of producers
and thread; its recording reads back and plays back as the packets that are not too large.
-/
theorem recorded_session_replays
    {ω : Type}
    {sink : Sink ω}
    (reliable : sink.Reliable)
    (state : ω)
    (started : Instant)
    {before : List WorkerOperation}
    (goesOn : ∀ operation ∈ before, operation ≠ .stop)
    (after : List WorkerOperation) :
    ∃ worker, (create sink state started).start = .ok worker ∧
      Reproduces started before after worker := by
  obtain ⟨worker, fresh, accepted, running, silent, ended, stage, joined, silentEnd, received⟩ :=
    session_received reliable state started goesOn after
  have writable : ∀ entry ∈ entriesOf started (worker.accepted before),
      entry.isWritable = true :=
    fun _ => entriesOf_writable
  refine ⟨worker, fresh, accepted, running, silent, ended, stage,
    entriesOf started (worker.accepted before), joined, silentEnd, ?_, ?_, ?_⟩
  · rw [entriesOf, List.map_map]
    exact List.map_congr_left (fun packet _ => reading_entryOf started packet)
  · rw [received]
    exact readsBack_encodings writable
  · rw [received]
    exact playsBack_encodings writable

/--
A navigation packet, which the thread takes at once, and a video packet from before the start.
-/
def briefSession : List WorkerOperation :=
  [ .enqueue { kind := .navigation, sequence := 7, timestamp := ⟨2550⟩, payload := [1, 2] },
    .consume,
    .enqueue { kind := .video, sequence := 0, timestamp := ⟨-40⟩, payload := [] } ]

/-- What the recording of `briefSession` holds. -/
def briefEntries : List RecordedEntry :=
  [ { kind := .navigation, ticks := 25, payload := [1, 2] },
    { kind := .video, ticks := 0, payload := [] } ]

/-- A session of two packets is recorded, read back and played. -/
theorem brief_session_replays :
    Sink.memory.Reliable ∧ (∀ operation ∈ briefSession, operation ≠ .stop) ∧
    ∃ worker ended stage player playing,
      (create Sink.memory () ⟨0⟩).start = .ok worker ∧
      ((worker.run briefSession).stop.run []).settle.join = (ended, some stage) ∧
      Player.create 1.0 = .ok player ∧
      player.play ⟨0⟩ (.ofBytes stage.output.received) = .ok playing ∧
      (playing.runUntil (.ofMilliseconds 1)).currentState = .finished ∧
      (playing.runUntil (.ofMilliseconds 1)).notifications = [.playbackFinished 2] ∧
      (playing.runUntil (.ofMilliseconds 1)).offered.map Playback.contentOf =
        [(.navigation, [1, 2]), (.video, [])] := by
  have goesOn : ∀ operation ∈ briefSession, operation ≠ .stop := by
    decide
  obtain ⟨worker, fresh, accepted, -, -, ended, stage, entries, joined, -, readings, -, plays⟩ :=
    recorded_session_replays Sink.memory_reliable () ⟨0⟩ goesOn []
  rw [accepted] at readings
  have known : entries.map RecordedEntry.reading =
      briefEntries.map RecordedEntry.reading := readings
  have same : entries = briefEntries :=
    (List.map_inj_right RecordedEntry.reading_injective).mp known
  subst same
  have valid : Playback.isValidRate 1.0 = true := by
    decide +kernel
  have created : Player.create 1.0 =
      .ok { rate := 1.0, state := .idle, playback := none, reports := [] } := by
    simp only [Player.create, valid, if_true]
  have timed : ∀ entry ∈ briefEntries,
      Playback.delay? 1.0 ⟨0⟩ entry.offset = some entry.offset ∧
      entry.offset.nanoseconds < (Duration.ofMilliseconds 1).nanoseconds := by
    decide +kernel
  have representable : ∀ entry ∈ briefEntries,
      (Playback.delay? 1.0 ⟨0⟩ entry.offset).isSome := by
    intro entry member
    rw [(timed entry member).1]
    rfl
  obtain ⟨playing, started, ends⟩ := plays 1.0 _ ⟨0⟩ (fun _ => .whole) created representable
  have played := ends (.ofMilliseconds 1) (by
    intro entry member delay due
    rw [(timed entry member).1] at due
    cases due
    exact (timed entry member).2)
  exact ⟨Sink.memory_reliable, goesOn, worker, ended, stage, _, playing, fresh, joined, created,
    started, played.finished, played.reported, played.offered⟩

end Recorder

end DroneSession
