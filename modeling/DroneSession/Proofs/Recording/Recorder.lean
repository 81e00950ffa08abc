import DroneSession.Proofs.Recording.Output
import DroneSession.Proofs.Worker.Session
import DroneSession.Recording.Recorder

namespace DroneSession

/-!
# What a recorder records

With a sink that never fails a recorder appends the entry of every packet that is not too large and
has nothing to report; a session of it leaves these entries in the sink, in the order in which their
packets were accepted.
-/

namespace Recorder

variable {ω : Type} {sink : Sink ω}

/-- Whether a packet is small enough to be recorded. -/
def isRecordable (packet : Packet) : Bool :=
  packet.payload.length ≤ RecordedEntry.largestPayload

/-- The entries of some packets. -/
def entriesOf
    (started : Instant)
    (packets : List Packet) :
    List RecordedEntry :=
  (packets.filter isRecordable).map (entryOf started)

/-- What is recorded can be written. -/
theorem entriesOf_writable
    {started : Instant}
    {packets : List Packet}
    {entry : RecordedEntry}
    (member : entry ∈ entriesOf started packets) :
    entry.isWritable = true := by
  obtain ⟨packet, kept, rfl⟩ := List.mem_map.mp member
  exact (List.mem_filter.mp kept).2

/-- Packets that are small enough are all recorded. -/
theorem entriesOf_of_recordable
    (started : Instant)
    {packets : List Packet}
    (small : ∀ packet ∈ packets, packet.payload.length ≤ RecordedEntry.largestPayload) :
    entriesOf started packets = packets.map (entryOf started) := by
  have kept : packets.filter isRecordable = packets :=
    List.filter_eq_self.mpr fun packet member => decide_eq_true (small packet member)
  rw [entriesOf, kept]

/-- A packet that is too large is refused and changes nothing. -/
theorem handle_large
    {packet : Packet}
    (large : isRecordable packet = false)
    (stage : RecordingStage ω) :
    handle sink stage packet =
      (stage, .failed (.malformedPacket "recorder"
        (toString packet.payload.length ++ " byte packet is too large to record"))) := by
  have refused : (entryOf stage.started packet).isWritable = false := large
  simp only [handle, RecordedEntry.writes, refused, Bool.false_eq_true, if_false]

/-- A recordable packet is written as its entry. -/
theorem handle_recordable
    (reliable : sink.Reliable)
    {packet : Packet}
    (small : isRecordable packet = true)
    (stage : RecordingStage ω) :
    ∃ output, handle sink stage packet = ({ stage with output := output }, .done) ∧
      output.written =
        stage.output.written ++ (entryOf stage.started packet).encode := by
  have writable : (entryOf stage.started packet).isWritable = true := small
  obtain ⟨next, wrote, added⟩ := Output.writeAll_reliable reliable stage.output
    [(entryOf stage.started packet).header, (entryOf stage.started packet).payload]
  refine ⟨next, ?_, ?_⟩
  · simp only [handle, RecordedEntry.writes, writable, if_true, wrote]
  · rw [added, RecordedEntry.encode, List.flatten_cons, List.flatten_singleton]

/-- A recorder whose sink never fails finishes with everything in the sink. -/
theorem finish_reliable
    (reliable : sink.Reliable)
    (stage : RecordingStage ω) :
    ∃ output, finish sink stage = ({ stage with output := output }, .done) ∧
      output.received = stage.output.written := by
  obtain ⟨next, flushed, received⟩ := Output.flush_reliable reliable stage.output
  refine ⟨next, ?_, received⟩
  simp only [finish, flushed]

/-- With a sink that never fails a recorder has nothing to report, however large the packets. -/
theorem handler_quiet
    (reliable : sink.Reliable) :
    (handler sink).Quiet where
  handle := by
    intro stage packet
    cases size : isRecordable packet with
    | true =>
        obtain ⟨output, handled, -⟩ := handle_recordable reliable size stage
        exact .inl (congrArg Prod.snd handled)
    | false =>
        exact .inr ⟨_, congrArg Prod.snd (handle_large size stage), rfl⟩
  finish := by
    intro stage
    obtain ⟨output, finished, -⟩ := finish_reliable reliable stage
    exact congrArg Prod.snd finished

/-- Some packets add the entries of the recordable ones among them. -/
theorem handleAll_written
    (reliable : sink.Reliable)
    (stage : RecordingStage ω)
    (packets : List Packet) :
    ((handler sink).handleAll stage packets).output.written =
      stage.output.written ++ (entriesOf stage.started packets).flatMap RecordedEntry.encode := by
  induction packets generalizing stage with
  | nil => simp [Handler.handleAll, entriesOf]
  | cons packet packets inductionHypothesis =>
      have step : (handler sink).handleAll stage (packet :: packets) =
          (handler sink).handleAll (handle sink stage packet).1 packets := rfl
      rw [step, inductionHypothesis]
      cases size : isRecordable packet with
      | true =>
          obtain ⟨output, handled, added⟩ := handle_recordable reliable size stage
          simp [handled, added, entriesOf, size]
      | false =>
          simp [handle_large size stage, entriesOf, size]

/-- What a sink holds when its recorder has finished. -/
theorem received_of_finish
    (reliable : sink.Reliable)
    (stage : RecordingStage ω)
    (packets : List Packet) :
    ((handler sink).finish ((handler sink).handleAll stage packets)).1.output.received =
      stage.output.written ++ (entriesOf stage.started packets).flatMap RecordedEntry.encode := by
  obtain ⟨output, finished, received⟩ := finish_reliable reliable
    ((handler sink).handleAll stage packets)
  change (finish sink _).1.output.received = _
  rw [finished]
  exact received.trans (handleAll_written reliable stage packets)

/-- What a sink has received after a whole session of a recorder. -/
theorem session_received
    (reliable : sink.Reliable)
    (state : ω)
    (started : Instant)
    {before : List WorkerOperation}
    (goesOn : ∀ operation ∈ before, operation ≠ .stop)
    (after : List WorkerOperation) :
    ∃ worker, (create sink state started).start = .ok worker ∧
      worker.accepted before = before.filterMap WorkerOperation.packet? ∧
      (worker.run before).stage = .running ∧
      (worker.run before).notifications = [] ∧
      ∃ ended stage, ((worker.run before).stop.run after).settle.join = (ended, some stage) ∧
        ended.notifications = [] ∧
        stage.output.received =
          (entriesOf started (worker.accepted before)).flatMap RecordedEntry.encode := by
  obtain ⟨worker, fresh, offered, running, silent, ended, joined, silentEnd⟩ :=
    Worker.session_of_quiet (handler_quiet reliable) name
      { output := .start state, started := started } goesOn after
  exact ⟨worker, fresh, offered, running, silent, ended, _, joined, silentEnd,
    received_of_finish reliable { output := .start state, started := started }
      (worker.accepted before)⟩

end Recorder

end DroneSession
