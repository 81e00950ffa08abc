import Mathlib.Data.List.Induction
import DroneSession.Proofs.Recording.Reading
import DroneSession.Proofs.Recording.Recorder
import DroneSession.Proofs.Worker.Exit
import DroneSession.Recording.Device

namespace DroneSession

/-!
# Recording to a device that fails

A device may interrupt a write, take only a part of it, or fail in a write or a flush, once or for
good.  Whatever it does, it has received the first bytes of the entries of the accepted packets, and
a packet that fails is the last of which it gets anything.  A failure is reported once; without one
the device has every entry when the recorder is joined.
-/

namespace Device

variable {ω : Type}

/-- A write that is interrupted is made again with what the device has come to. -/
theorem retry_eq
    (device : Device ω)
    (state : ω)
    (bytes : Bytes) :
    device.retry state bytes =
      match device.write state bytes with
      | (next, .interrupted) => device.retry next bytes
      | (next, .took count) => (next, .ok count)
      | (next, .failed fault) => (next, .error fault) := by
  rw [retry]
  split <;> rename_i answered <;> rw [answered]

/-- An interrupted write is offered again. -/
theorem write_of_interrupted
    {device : Device ω}
    {state next : ω}
    {bytes : Bytes}
    (interrupted : device.write state bytes = (next, .interrupted)) :
    device.sink.write state bytes = device.sink.write next bytes := by
  change device.retry state bytes = device.retry next bytes
  rw [retry_eq, interrupted]

/-- Every sink is a device, so what holds behind devices holds behind sinks. -/
theorem sink_steady
    (sink : Sink ω) :
    (steady sink).sink = sink := by
  have same : ∀ state bytes, (steady sink).retry state bytes = sink.write state bytes := by
    intro state bytes
    rw [retry_eq]
    simp only [steady]
    rcases sink.write state bytes with ⟨next, fault | count⟩ <;> rfl
  cases sink
  exact congrArg (Sink.mk · _) (funext fun state => funext (same state))

end Device

namespace Recorder

variable {ω : Type} {sink : Sink ω}

/-! ## The entries of some packets -/

/-- The bytes of the entries of some packets. -/
def bytesOf
    (started : Instant)
    (packets : List Packet) :
    Bytes :=
  (entriesOf started packets).flatMap RecordedEntry.encode

theorem entriesOf_mono
    (started : Instant)
    {packets others : List Packet}
    (first : packets <+: others) :
    entriesOf started packets <+: entriesOf started others :=
  (first.filter isRecordable).map (entryOf started)

theorem bytesOf_mono
    (started : Instant)
    {packets others : List Packet}
    (first : packets <+: others) :
    bytesOf started packets <+: bytesOf started others := by
  obtain ⟨more, parts⟩ := entriesOf_mono started first
  rw [bytesOf, bytesOf, ← parts, List.flatMap_append]
  exact List.prefix_append _ _

/-- A packet that is not too large is written behind the others. -/
theorem bytesOf_concat_small
    (started : Instant)
    (packets : List Packet)
    {packet : Packet}
    (small : isRecordable packet = true) :
    bytesOf started (packets ++ [packet]) =
      bytesOf started packets ++ (entryOf started packet).encode := by
  simp [bytesOf, entriesOf, small]

/-- A packet that is too large writes nothing. -/
theorem bytesOf_concat_large
    (started : Instant)
    (packets : List Packet)
    {packet : Packet}
    (large : isRecordable packet = false) :
    bytesOf started (packets ++ [packet]) = bytesOf started packets := by
  simp [bytesOf, entriesOf, large]

/-! ## One packet -/

/-- Everything that recording a packet can do. -/
inductive HandleCase
    (stage : RecordingStage ω)
    (packet : Packet) :
    RecordingStage ω × HandlerOutcome → Prop where
  /-- A packet that is too large is dropped without a word. -/
  | dropped
      (large : isRecordable packet = false)
      (context details : String) :
      HandleCase stage packet (stage, .failed (.malformedPacket context details))
  | recorded
      (small : isRecordable packet = true)
      (output : Output ω)
      (written : output.written =
        stage.output.written ++ (entryOf stage.started packet).encode) :
      HandleCase stage packet ({ stage with output := output }, .done)
  /-- A part of the entry was written before the device failed. -/
  | broken
      (small : isRecordable packet = true)
      (output : Output ω)
      (part : Bytes)
      (front : part <+: (entryOf stage.started packet).encode)
      (written : output.written = stage.output.written ++ part)
      (fault : StreamFault) :
      HandleCase stage packet
        ({ stage with output := output }, .failed (.sinkFailure "recording write" fault))

/-- Every recording of a packet is one of the cases of what it can do. -/
theorem handleCase
    (stage : RecordingStage ω)
    (packet : Packet) :
    HandleCase stage packet (handle sink stage packet) := by
  cases size : isRecordable packet with
  | false =>
      rw [handle_large size]
      exact .dropped size _ _
  | true =>
      have writable : (entryOf stage.started packet).isWritable = true := size
      obtain ⟨added, front, written, complete⟩ := @Output.writeAll_adds ω sink stage.output
        [(entryOf stage.started packet).header, (entryOf stage.started packet).payload]
      have entry : [(entryOf stage.started packet).header,
          (entryOf stage.started packet).payload].flatten =
          (entryOf stage.started packet).encode := by
        rw [List.flatten_cons, List.flatten_singleton, RecordedEntry.encode]
      rw [entry] at front complete
      simp only [handle, RecordedEntry.writes, writable, if_true]
      rcases wrote : stage.output.writeAll sink
        [(entryOf stage.started packet).header, (entryOf stage.started packet).payload]
        with ⟨output, result⟩
      rw [wrote] at written complete
      cases result with
      | ok done =>
          obtain rfl := complete rfl
          exact .recorded size output written
      | error fault => exact .broken size output added front written fault

/-- Flushing keeps what was written, and brings all of it to the device or fails. -/
theorem exists_finish
    (stage : RecordingStage ω) :
    ∃ output, output.written = stage.output.written ∧
      ((finish sink stage = ({ stage with output := output }, .done) ∧
          output.received = stage.output.written) ∨
        ∃ fault, finish sink stage =
          ({ stage with output := output }, .failed (.sinkFailure "recording flush" fault))) := by
  obtain ⟨kept, complete⟩ := @Output.flush_parts ω sink stage.output
  unfold finish
  rcases flushed : stage.output.flush sink with ⟨output, result⟩
  rw [flushed] at kept complete
  cases result with
  | ok done => exact ⟨output, kept, .inl ⟨rfl, complete rfl⟩⟩
  | error fault => exact ⟨output, kept, .inr ⟨fault, rfl⟩⟩

/-- A recorder does not panic when it finishes. -/
theorem handler_finishesCalmly : (handler sink).FinishesCalmly := by
  intro stage
  obtain ⟨output, -, ⟨finished, -⟩ | ⟨fault, finished⟩⟩ := @exists_finish ω sink stage
  · exact congrArg (fun result => result.2.isPanic) finished
  · exact congrArg (fun result => result.2.isPanic) finished

/-! ## Many packets -/

/-- What a recorder has done with packets of which none has failed. -/
structure Records
    (sink : Sink ω)
    (stage : RecordingStage ω)
    (packets : List Packet) :
    Prop where
  started : ((handler sink).handleAll stage packets).started = stage.started
  written : ((handler sink).handleAll stage packets).output.written =
    stage.output.written ++ bytesOf stage.started packets
  silent : (handler sink).reportsOf name stage packets = []

/-- What a recorder has done with packets of which the last is the first that has failed. -/
structure Breaks
    (sink : Sink ω)
    (stage : RecordingStage ω)
    (earlier : List Packet)
    (packet : Packet)
    (fault : StreamFault) :
    Prop where
  failed : (handle sink ((handler sink).handleAll stage earlier) packet).2 =
    .failed (.sinkFailure "recording write" fault)
  written : ((handler sink).handleAll stage (earlier ++ [packet])).output.written <+:
    stage.output.written ++ bytesOf stage.started (earlier ++ [packet])
  reported : (handler sink).reportsOf name stage (earlier ++ [packet]) =
    [.workerStopped name (SessionError.sinkFailure "recording write" fault).message]

/-- One packet more is recorded or dropped, or it is the first that fails. -/
theorem Records.concat
    {stage : RecordingStage ω}
    {packets : List Packet}
    (records : Records sink stage packets)
    (packet : Packet) :
    (Records sink stage (packets ++ [packet]) ∧
        (handle sink ((handler sink).handleAll stage packets) packet).2.isFatal = false) ∨
      ((handle sink ((handler sink).handleAll stage packets) packet).2.isFatal = true ∧
        ∃ fault, Breaks sink stage packets packet fault) := by
  obtain ⟨started, written, silent⟩ := records
  have handled := @handleCase ω sink ((handler sink).handleAll stage packets) packet
  have last : (handler sink).handleAll stage (packets ++ [packet]) =
      (handle sink ((handler sink).handleAll stage packets) packet).1 :=
    (handler sink).handleAll_concat stage packets packet
  have reports : (handler sink).reportsOf name stage (packets ++ [packet]) =
      (handle sink ((handler sink).handleAll stage packets) packet).2.reports name := by
    rw [Handler.reportsOf_concat, silent]
    rfl
  generalize result : handle sink ((handler sink).handleAll stage packets) packet = outcome
    at handled last reports
  cases handled with
  | dropped large context details =>
      refine .inl ⟨⟨?_, ?_, reports⟩, rfl⟩
      · rw [last]
        exact started
      · rw [last, bytesOf_concat_large _ _ large]
        exact written
  | recorded small output added =>
      refine .inl ⟨⟨?_, ?_, reports⟩, rfl⟩
      · rw [last]
        exact started
      · rw [last, bytesOf_concat_small _ _ small, ← List.append_assoc, ← written, added, started]
  | broken small output part front added fault =>
      refine .inr ⟨rfl, fault, by rw [result], ?_, reports⟩
      rw [started] at front
      rw [last, bytesOf_concat_small _ _ small, ← List.append_assoc, ← written, added]
      exact (List.prefix_append_right_inj _).mpr front

/-- A recorder that has not failed has recorded its packets. -/
theorem records_of_not_faults
    {stage : RecordingStage ω}
    {packets : List Packet}
    (faultless : ¬ (handler sink).Faults stage packets) :
    Records sink stage packets := by
  induction packets using List.reverseRecOn with
  | nil => exact ⟨rfl, (List.append_nil _).symm, rfl⟩
  | append_singleton packets packet inductionHypothesis =>
      rw [Handler.faults_concat_iff, not_or] at faultless
      rcases (inductionHypothesis faultless.1).concat packet with ⟨records, -⟩ | ⟨fatal, -⟩
      · exact records
      · exact absurd fatal faultless.2

/-- A recorder that is halted has failed at the last of its packets. -/
theorem exists_breaks_of_haltsAt
    {stage : RecordingStage ω}
    {earlier : List Packet}
    {packet : Packet}
    (halts : (handler sink).HaltsAt stage earlier packet) :
    ∃ fault, Breaks sink stage earlier packet fault := by
  rcases (records_of_not_faults halts.1).concat packet with ⟨-, goesOn⟩ | ⟨-, breaks⟩
  · exact absurd halts.2 (Bool.eq_false_iff.mp goesOn)
  · exact breaks

/-! ## Reading back what a device has received -/

/-- Some bytes read as the first of some entries, and then the end or one truncation. -/
def ReadsWithin
    (bytes : Bytes)
    (entries : List RecordedEntry) :
    Prop :=
  ∃ (front : List RecordedEntry) (fault : Option ReadFault),
    front <+: entries ∧
    (∀ failure, fault = some failure → RecordingReader.IsTruncation failure) ∧
    ∀ schedule count,
      ((RecordingIterator.scheduled bytes schedule).nextMany (front.length + 1 + count)).2 =
        RecordingIterator.answersOf front fault count

/--
The first bytes of a recording read as its first entries, and then as a truncation or the end.
-/
theorem readsWithin_of_prefix
    {started : Instant}
    {packets : List Packet}
    {bytes : Bytes}
    (front : bytes <+: bytesOf started packets) :
    ReadsWithin bytes (entriesOf started packets) := by
  have received : bytes = (bytesOf started packets).take bytes.length :=
    List.prefix_iff_eq_take.mp front
  have writable : ∀ entry ∈ entriesOf started packets, entry.isWritable = true :=
    fun _ => entriesOf_writable
  obtain ⟨fault, answers, atBoundary, inside⟩ :=
    RecordingReader.exists_answers_of_cut writable front.length_le
  refine ⟨RecordedEntry.endingBy bytes.length 0 (entriesOf started packets), fault,
    RecordedEntry.endingBy_prefix, ?_, ?_⟩
  · intro failure found
    by_cases boundary : bytes.length ∈ RecordedEntry.boundaries 0 (entriesOf started packets)
    · rw [atBoundary boundary] at found
      cases found
    · obtain ⟨truncation, same, truncates⟩ := inside boundary
      rw [same] at found
      rwa [← Option.some.inj found]
  · intro schedule count
    have cut := answers schedule count
    rwa [← bytesOf, ← received] at cut

/-! ## A whole recording -/

/-- A recording that nothing was written to. -/
def blank
    (state : ω)
    (started : Instant) :
    RecordingStage ω where
  output := .start state
  started := started

/-- A recorder as it is created, before any call. -/
def around
    (sink : Sink ω)
    (state : ω)
    (started : Instant) :
    Traffic (RecordingStage ω) :=
  .fresh name (handler sink) (blank state started)

section

variable {state : ω} {started : Instant} {traffic : Traffic (RecordingStage ω)}

/-- What was handed over is what was written, up to a part of a last entry that has failed. -/
theorem written_within
    (carries : traffic.Carries (handler sink) (blank state started))
    (accounts : traffic.Accounts name (handler sink) (blank state started)) :
    traffic.worker.state.output.written <+: bytesOf started traffic.handled := by
  have handed : ((handler sink).handleAll (blank state started) traffic.handled).output.written <+:
      bytesOf started traffic.handled := by
    rcases accounts.reported.faultless_or_halted with faultless | ⟨earlier, packet, parts, halts⟩
    · rw [(records_of_not_faults faultless).written]
      exact List.prefix_rfl
    · obtain ⟨fault, breaks⟩ := exists_breaks_of_haltsAt halts
      rw [parts]
      exact breaks.written
  cases isOpen : traffic.worker.isOpen with
  | true =>
      rw [carries.open_state isOpen]
      exact handed
  | false =>
      -- The last flush, whether it fails or not, moves bytes to the sink and adds none.
      rw [carries.closed_state isOpen]
      obtain ⟨output, kept, ⟨finished, -⟩ | ⟨fault, finished⟩⟩ := @exists_finish ω sink
        ((handler sink).handleAll (blank state started) traffic.handled)
      · change (finish sink _).1.output.written <+: _
        rw [finished]
        exact kept ▸ handed
      · change (finish sink _).1.output.written <+: _
        rw [finished]
        exact kept ▸ handed

/-- The thread hands over nothing behind the first packet that fails. -/
theorem handled_within_of_haltsAt
    (carries : traffic.Carries (handler sink) (blank state started))
    (accounts : traffic.Accounts name (handler sink) (blank state started))
    {earlier : List Packet}
    {packet : Packet}
    (halts : (handler sink).HaltsAt (blank state started) earlier packet)
    (first : earlier ++ [packet] <+: traffic.sent.map Offer.packet) :
    traffic.handled <+: earlier ++ [packet] := by
  rcases accounts.reported.faultless_or_halted with faultless | ⟨others, last, parts, haltsLast⟩
  · exact (halts.prefix_of_not_faults faultless first carries.first).trans
      (List.prefix_append _ _)
  · have within := carries.first
    rw [parts] at within ⊢
    have shorter := halts.prefix_of_not_faults haltsLast.1 first
      ((List.prefix_append _ _).trans within)
    refine List.prefix_of_prefix_length_le within first ?_
    rw [List.length_append, List.length_append]
    exact Nat.add_le_add_right shorter.length_le 1

end

/-- How a recording has ended, and what was reported of it. -/
inductive Verdict
    (sink : Sink ω)
    (initial : RecordingStage ω)
    (handled : List Packet)
    (received : Bytes) :
    List Notification → Prop where
  /-- No write has failed and the last flush has not: every entry was received. -/
  | flawless
      (written : ¬ (handler sink).Faults initial handled)
      (flushed : (finish sink ((handler sink).handleAll initial handled)).2 = .done)
      (complete : received = bytesOf initial.started handled) :
      Verdict sink initial handled received []
  /-- The write of the last packet has failed; what happened to the flush behind it is not told. -/
  | writeFailed
      (earlier : List Packet)
      (packet : Packet)
      (parts : handled = earlier ++ [packet])
      (before : ¬ (handler sink).Faults initial earlier)
      (fault : StreamFault)
      (failed : (handle sink ((handler sink).handleAll initial earlier) packet).2 =
        .failed (.sinkFailure "recording write" fault)) :
      Verdict sink initial handled received
        [.workerStopped name (SessionError.sinkFailure "recording write" fault).message]
  | flushFailed
      (written : ¬ (handler sink).Faults initial handled)
      (fault : StreamFault)
      (failed : (finish sink ((handler sink).handleAll initial handled)).2 =
        .failed (.sinkFailure "recording flush" fault)) :
      Verdict sink initial handled received
        [.workerStopped name (SessionError.sinkFailure "recording flush" fault).message]

/-- Nothing is reported of a recording exactly if nothing has failed. -/
theorem Verdict.complete_of_silent
    {initial : RecordingStage ω}
    {handled : List Packet}
    {received : Bytes}
    (verdict : Verdict sink initial handled received []) :
    ¬ (handler sink).Faults initial handled ∧ received = bytesOf initial.started handled := by
  cases verdict with
  | flawless written flushed complete => exact ⟨written, complete⟩

/-- A recorder whose thread has exited has reported its end and nothing else. -/
theorem verdict_of_exited
    {state : ω}
    {started : Instant}
    {traffic : Traffic (RecordingStage ω)}
    (carries : traffic.Carries (handler sink) (blank state started))
    (accounts : traffic.Accounts name (handler sink) (blank state started))
    (exited : traffic.worker.stage = .exited) :
    Verdict sink (blank state started) traffic.handled traffic.worker.state.output.received
      traffic.worker.notifications := by
  have closed : traffic.worker.state =
      (finish sink ((handler sink).handleAll (blank state started) traffic.handled)).1 :=
    carries.closed_state (by rw [Worker.isOpen, exited])
  have reported := accounts.reported
  generalize traffic.worker.notifications = notifications at reported ⊢
  rw [exited] at reported
  cases reported with
  | sound inside => simp at inside
  | halted left earlier packet parts halts =>
      obtain ⟨fault, breaks⟩ := exists_breaks_of_haltsAt halts
      rw [parts, breaks.reported]
      exact .writeFailed earlier packet rfl halts.1 fault breaks.failed
  | finished last faultless =>
      have records := records_of_not_faults faultless
      rw [records.silent, List.nil_append]
      change Verdict _ _ _ _ ((finish sink _).2.finalReports name false)
      obtain ⟨output, -, ⟨finished, complete⟩ | ⟨fault, failed⟩⟩ := @exists_finish ω sink
        ((handler sink).handleAll (blank state started) traffic.handled)
      · rw [closed, finished]
        exact .flawless faultless (by rw [finished]) (complete.trans records.written)
      · rw [failed]
        exact .flushFailed faultless fault (by rw [failed])

/-- What holds of a recorder that its owner has joined. -/
structure Ends
    (sink : Sink ω)
    (state : ω)
    (started : Instant)
    (steps : List TrafficStep)
    (traffic : Traffic (RecordingStage ω))
    (ended : Worker (RecordingStage ω))
    (stage : RecordingStage ω) :
    Prop where
  received : stage.output.received = traffic.worker.state.output.received
  verdict : Verdict sink (blank state started) traffic.handled stage.output.received
    ended.notifications
  /-- Unless something failed, what was accepted before anybody stopped the recorder is there. -/
  complete : ended.notifications = [] → ∀ before after, steps = before ++ after →
    ((around sink state started).run before).stopCalls = 0 →
    bytesOf started (((around sink state started).run before).sent.map Offer.packet) <+:
      stage.output.received ∧
    (traffic.sent = ((around sink state started).run before).sent →
      stage.output.received = bytesOf started (traffic.sent.map Offer.packet))

/-- What holds of a recorder after some steps, whatever becomes of its writes. -/
structure Endures
    (sink : Sink ω)
    (state : ω)
    (started : Instant)
    (steps : List TrafficStep)
    (traffic : Traffic (RecordingStage ω)) :
    Prop where
  /-- The first bytes of the entries of the accepted packets were received, and nothing else. -/
  front : traffic.worker.state.output.received <+:
    bytesOf started (traffic.sent.map Offer.packet)
  reads : ReadsWithin traffic.worker.state.output.received
    (entriesOf started (traffic.sent.map Offer.packet))
  /-- Nothing is recorded behind the first packet that fails. -/
  halted : ∀ earlier packet,
    earlier ++ [packet] <+: traffic.sent.map Offer.packet →
    (handler sink).HaltsAt (blank state started) earlier packet →
    traffic.worker.state.output.received <+: bytesOf started (earlier ++ [packet])
  joined : ∀ ended stage, traffic.worker.join = (ended, some stage) →
    Ends sink state started steps traffic ended stage
  /-- A recorder that was started and not joined can be stopped and joined. -/
  joins : traffic.worker.stage ≠ .fresh → traffic.worker.joined = false →
    ∃ later : List TrafficStep, (∀ step ∈ later, step.endsWorker = true) ∧
      (traffic.run later).worker.join.2.isSome = true

/-- However the steps are ordered, what was sent to a recorder is recorded or on its way. -/
theorem carries_around
    (sink : Sink ω)
    (state : ω)
    (started : Instant)
    (steps : List TrafficStep) :
    ((around sink state started).run steps).Carries (handler sink) (blank state started) :=
  Traffic.carries_run name (handler sink) (blank state started) steps

/-- However the steps are ordered, a recorder reports what its writes call for. -/
theorem accounts_around
    (sink : Sink ω)
    (state : ω)
    (started : Instant)
    (steps : List TrafficStep) :
    ((around sink state started).run steps).Accounts name (handler sink) (blank state started) :=
  Traffic.accounts_run name (handler sink) (blank state started) steps

/-- Without a failure the packets accepted before anybody stopped the recorder are all handled. -/
theorem sent_prefix_handled
    {state : ω}
    {started : Instant}
    {before after : List TrafficStep}
    (unstopped : ((around sink state started).run before).stopCalls = 0)
    (exited : ((around sink state started).run (before ++ after)).worker.stage = .exited)
    (faultless : ¬ (handler sink).Faults (blank state started)
      ((around sink state started).run (before ++ after)).handled) :
    ((around sink state started).run before).sent.map Offer.packet <+:
      ((around sink state started).run (before ++ after)).handled := by
  have stoppable : ((around sink state started).run before).Stoppable (handler sink)
      (blank state started) :=
    Traffic.stoppable_run name (handler sink) (blank state started) before
  rw [Traffic.run_append] at exited faultless ⊢
  exact stoppable.sent_prefix_handled (carries_around sink state started before) unstopped
    (by rw [Worker.hasLeft, exited]) faultless

/-- A recorder that was joined has ended in one of the ways that are listed. -/
theorem ends_of_join
    {state : ω}
    {started : Instant}
    {steps : List TrafficStep}
    {ended : Worker (RecordingStage ω)}
    {stage : RecordingStage ω}
    (joined : ((around sink state started).run steps).worker.join = (ended, some stage)) :
    Ends sink state started steps ((around sink state started).run steps) ended stage := by
  have carries := carries_around sink state started steps
  obtain ⟨exited, rfl, rfl⟩ := Worker.exited_of_join joined
  have verdict := verdict_of_exited carries (accounts_around sink state started steps) exited
  refine ⟨rfl, verdict, ?_⟩
  rintro silent before after rfl unstopped
  change ((around sink state started).run (before ++ after)).worker.notifications = [] at silent
  rw [silent] at verdict
  obtain ⟨faultless, complete⟩ := verdict.complete_of_silent
  have handedOver := sent_prefix_handled unstopped exited faultless
  rw [complete]
  refine ⟨bytesOf_mono started handedOver, ?_⟩
  intro same
  rw [← same] at handedOver
  rw [carries.first.eq_of_length_le handedOver.length_le]
  rfl

/-- Whatever a device does and whatever the order of steps, a recording endures it. -/
theorem recording_endures
    (device : Device ω)
    (state : ω)
    (started : Instant)
    (steps : List TrafficStep) :
    Endures device.sink state started steps
      ((around device.sink state started).run steps) := by
  have carries := carries_around device.sink state started steps
  have accounts := accounts_around device.sink state started steps
  have received := (List.prefix_append _ _).trans (written_within carries accounts)
  refine
    { front := received.trans (bytesOf_mono started carries.first)
      reads := readsWithin_of_prefix (received.trans (bytesOf_mono started carries.first))
      halted := ?_
      joined := fun _ _ => ends_of_join
      joins := Traffic.exists_join handler_finishesCalmly carries accounts }
  intro earlier packet first halts
  exact received.trans
    (bytesOf_mono started (handled_within_of_haltsAt carries accounts halts first))

end Recorder

end DroneSession
