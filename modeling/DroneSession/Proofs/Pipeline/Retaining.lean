import DroneSession.Proofs.Pipeline.Sharing
import DroneSession.Proofs.Recording.Endurance

namespace DroneSession

/-!
# A recorder between its start and its end

A recorder whose sink never fails loses nothing of what it is sent before it is told to stop.  What
its thread has taken from the queue is written, and the rest waits in front of the stop message.
-/

namespace Worker

variable {σ : Type} {handler : Handler σ} {initial : σ}

/-- A worker that serves is held by its owner. -/
theorem Serves.hasThread
    {worker : Worker σ}
    {handled queued : List Packet}
    (serves : worker.Serves handler initial handled queued) :
    worker.hasThread = true :=
  hasThread_of_started (by simp [serves.stage]) serves.joined

/-- A packet that is sent to a worker that serves is accepted. -/
theorem Serves.send_accepted
    {worker : Worker σ}
    {handled queued : List Packet}
    (serves : worker.Serves handler initial handled queued)
    (packet : Packet) :
    (worker.send packet).2 = true := by
  simp only [Worker.send, isOpen, serves.stage, if_true]

/-- Between the two steps of a stop the thread goes on as before. -/
theorem Serves.perform_refuse
    (quiet : handler.Quiet)
    {worker : Worker σ}
    {handled queued : List Packet}
    (serves : worker.Serves handler initial handled queued)
    {operation : WorkerOperation}
    (alone : operation = .consume ∨ operation = .close) :
    worker.refuse.perform operation = (worker.perform operation).refuse := by
  rcases alone with rfl | rfl
  · change worker.refuse.consume = worker.consume.refuse
    cases queued with
    | nil => simp only [Worker.consume, Worker.refuse, serves.stage, serves.queue, List.map_nil]
    | cons packet queued =>
        have front := serves.queue
        rw [List.map_cons] at front
        rw [consume_packet quiet serves.work serves.stage front]
        exact consume_packet quiet serves.work serves.stage front
  · change worker.refuse.close = worker.close.refuse
    simp only [Worker.close, Worker.refuse, serves.stage]

end Worker

namespace Recorder

variable {ω : Type}

theorem bytesOf_append
    (started : Instant)
    (first second : List Packet) :
    bytesOf started (first ++ second) = bytesOf started first ++ bytesOf started second := by
  simp only [bytesOf, entriesOf, List.filter_append, List.map_append, List.flatMap_append]

variable {request : RecordingRequest ω} {packets : List Packet}
  {worker : Worker (RecordingStage ω)}

/-- A recorder that some packets were handed over to, as far as its owner has come with its end. -/
inductive Retains
    (request : RecordingRequest ω)
    (packets : List Packet) :
    Worker (RecordingStage ω) → OwnerStage ω → Prop where
  | serving
      (worker : Worker (RecordingStage ω))
      (owner : OwnerStage ω)
      (unstopped : owner.hasRefused = false)
      (handled queued : List Packet)
      (serves : worker.Serves (handler request.sink) (blank request.state request.started)
        handled queued)
      (all : handled ++ queued = packets) :
      Retains request packets worker owner
  | refusing
      (worker : Worker (RecordingStage ω))
      (next : Option (RecordingRequest ω))
      (handled queued : List Packet)
      (serves : worker.Serves (handler request.sink) (blank request.state request.started)
        handled queued)
      (all : handled ++ queued = packets) :
      Retains request packets worker.refuse (.stopping next)
  | leaving
      (worker : Worker (RecordingStage ω))
      (next : Option (RecordingRequest ω))
      (leaves : worker.Leaves (handler request.sink) (blank request.state request.started)
        packets) :
      Retains request packets worker (.joining next)

/-- A recorder that has just been started has lost nothing. -/
theorem retains_start
    (request : RecordingRequest ω)
    (starts : (create request.sink request.state request.started).start = .ok worker) :
    Retains request [] worker .attaching := by
  obtain ⟨same, sameStarts, serves⟩ := @Worker.Serves.start _ (handler request.sink)
    (blank request.state request.started) name
  change (create request.sink request.state request.started).start = .ok same at sameStarts
  obtain rfl := Except.ok.inj (starts.symm.trans sameStarts)
  exact .serving worker .attaching rfl [] [] serves rfl

/-- A recorder that nobody has told to stop serves what was handed over. -/
theorem Retains.serves
    {owner : OwnerStage ω}
    (retains : Retains request packets worker owner)
    (unstopped : owner.hasRefused = false) :
    ∃ handled queued,
      worker.Serves (handler request.sink) (blank request.state request.started) handled queued ∧
      handled ++ queued = packets := by
  cases retains with
  | serving worker owner unstopped handled queued serves all =>
      exact ⟨handled, queued, serves, all⟩
  | refusing worker next handled queued serves all => cases unstopped
  | leaving worker next leaves => cases unstopped

/-- The owner goes on with a call that has not come to the recorder. -/
theorem Retains.goesOn
    {owner next : OwnerStage ω}
    (retains : Retains request packets worker owner)
    (before : owner.hasRefused = false)
    (after : next.hasRefused = false) :
    Retains request packets worker next := by
  obtain ⟨handled, queued, serves, all⟩ := retains.serves before
  exact .serving worker next after handled queued serves all

/-- A recorder that was not told to refuse takes every packet and loses none. -/
theorem Retains.send
    {owner : OwnerStage ω}
    (retains : Retains request packets worker owner)
    (unstopped : owner.hasRefused = false)
    (packet : Packet) :
    Retains request (packets ++ [packet]) (worker.send packet).1 owner ∧
      (worker.send packet).2 = true := by
  obtain ⟨handled, queued, serves, rfl⟩ := retains.serves unstopped
  rw [List.append_assoc]
  exact ⟨.serving _ owner unstopped handled (queued ++ [packet]) (serves.send packet) rfl,
    serves.send_accepted packet⟩

/-- The thread of a recorder loses nothing. -/
theorem Retains.perform
    (reliable : request.sink.Reliable)
    {owner : OwnerStage ω}
    (retains : Retains request packets worker owner)
    {operation : WorkerOperation}
    (alone : operation = .consume ∨ operation = .close) :
    Retains request packets (worker.perform operation) owner := by
  have quiet := handler_quiet reliable
  have goesOn : operation ≠ .stop := by
    rcases alone with rfl | rfl <;> simp
  have silent : operation.packet? = none := by
    rcases alone with rfl | rfl <;> rfl
  cases retains with
  | serving worker owner unstopped handled queued serves all =>
      obtain ⟨handledNext, queuedNext, serves, moved⟩ := serves.perform quiet goesOn
      rw [silent, Option.toList_none, List.append_nil, all] at moved
      exact .serving _ owner unstopped handledNext queuedNext serves moved
  | refusing worker next handled queued serves all =>
      rw [serves.perform_refuse quiet alone]
      obtain ⟨handledNext, queuedNext, serves, moved⟩ := serves.perform quiet goesOn
      rw [silent, Option.toList_none, List.append_nil, all] at moved
      exact .refusing _ next handledNext queuedNext serves moved
  | leaving worker next leaves => exact .leaving _ next (leaves.perform quiet operation)

/-- A recorder that is told to refuse still has its thread and loses nothing. -/
theorem Retains.refuse
    {next : Option (RecordingRequest ω)}
    (retains : Retains request packets worker (.refusing next)) :
    worker.hasThread = true ∧ Retains request packets worker.refuse (.stopping next) := by
  obtain ⟨handled, queued, serves, all⟩ := retains.serves rfl
  exact ⟨serves.hasThread, .refusing worker next handled queued serves all⟩

/-- The stop message goes behind everything that was handed over. -/
theorem Retains.sendStop
    {next : Option (RecordingRequest ω)}
    (retains : Retains request packets worker (.stopping next)) :
    Retains request packets worker.sendStop (.joining next) := by
  cases retains with
  | serving worker owner unstopped handled queued serves all => cases unstopped
  | refusing worker next handled queued serves all =>
      have stopped : worker.refuse.sendStop = worker.stop := by
        rw [Worker.stop, if_pos serves.hasThread]
      rw [stopped]
      exact .leaving _ next (all ▸ serves.stop)

/-- What a recorder hands back when it has come to its end. -/
theorem Retains.join
    (reliable : request.sink.Reliable)
    {next : Option (RecordingRequest ω)}
    (retains : Retains request packets worker (.joining next))
    (closed : worker.isOpen = false) :
    ∃ stage, worker.join = ({ worker with joined := true }, some stage) ∧
      stage.output.received = bytesOf request.started packets := by
  cases retains with
  | serving worker owner unstopped handled queued serves all => cases unstopped
  | leaving worker next leaves =>
      exact ⟨_, leaves.join_of_closed closed,
        received_of_finish reliable (blank request.state request.started) packets⟩

/-- Behind the stop message the thread of a recorder comes to its end. -/
theorem Retains.closes
    (reliable : request.sink.Reliable)
    {next : Option (RecordingRequest ω)}
    (retains : Retains request packets worker (.joining next)) :
    worker.settle.isOpen = false := by
  have quiet := handler_quiet reliable
  cases retains with
  | serving worker owner unstopped handled queued serves all => cases unstopped
  | leaving worker next leaves =>
      obtain ⟨drained, outside⟩ := leaves.consumeMany quiet (fun _ => Nat.le_refl _)
      have exits : worker.settle.stage = .exited := drained.exits quiet outside
      rw [Worker.isOpen, exits]

/-- Until a recorder is told to stop, what was handed over is written or waits in its queue. -/
theorem Retains.written
    (reliable : request.sink.Reliable)
    {owner : OwnerStage ω}
    (retains : Retains request packets worker owner)
    (unstopped : owner.hasRefused = false) :
    worker.state.output.written ++ bytesOf request.started (queuedPackets worker.queue) =
      bytesOf request.started packets := by
  obtain ⟨handled, queued, serves, rfl⟩ := retains.serves unstopped
  have inQueue : queuedPackets worker.queue = queued := by
    rw [serves.queue, queuedPackets, List.filterMap_map]
    exact List.filterMap_some
  have written := handleAll_written reliable (blank request.state request.started) handled
  rw [inQueue, bytesOf_append, serves.state, written]
  rfl

end Recorder

end DroneSession
