import DroneSession.Proofs.Worker.Session

namespace DroneSession

/-!
# Service up to a fatal failure

A handler is given the packets that are offered to its worker, in their order, up to the first that
makes it fail fatally.  In which order producers and thread take turns makes no difference: when a
worker is shut down, its state is that of its handler after this service.
-/

namespace Handler

variable {σ : Type}

/-- The state of a handler after some packets, of which it is given none behind a fatal failure. -/
def serve
    (handler : Handler σ)
    (state : σ) :
    List Packet → σ
  | [] => state
  | packet :: packets =>
      if (handler.handle state packet).2.isFatal then
        (handler.handle state packet).1
      else
        handler.serve (handler.handle state packet).1 packets

/-- A handler that has nothing left to do at its end. -/
def Rests (handler : Handler σ) : Prop :=
  ∀ state, handler.finish state = (state, .done)

end Handler

namespace Worker

variable {σ : Type} {handler : Handler σ} {initial : σ}

/-- How far a thread has come with the packets that were offered. -/
inductive Progress
    (handler : Handler σ)
    (initial : σ)
    (offered : List Packet)
    (worker : Worker σ) :
    Prop where
  /-- The queue holds what the handler has yet to be given. -/
  | serving
      (queued : List Packet)
      (running : worker.stage = .running)
      (accepting : worker.accepting = true)
      (queue : worker.queue = queued.map .packet)
      (state : ∀ later,
        handler.serve worker.state (queued ++ later) =
          handler.serve initial (offered ++ later))
  /-- A fatal failure has ended the service, whatever is offered later. -/
  | faulted
      (stage : worker.stage = .closing true ∨ worker.stage = .exited)
      (refusing : worker.accepting = false)
      (state : ∀ later, worker.state = handler.serve initial (offered ++ later)) :
      Progress handler initial offered worker

/-- A worker that nobody has stopped, after some packets were offered to it. -/
structure Attends
    (handler : Handler σ)
    (initial : σ)
    (offered : List Packet)
    (worker : Worker σ) :
    Prop where
  work : worker.handler = handler
  joined : worker.joined = false
  progress : Progress handler initial offered worker

/-- A worker that has just been started attends to its producers. -/
theorem attends_start
    (name : String)
    (handler : Handler σ)
    (initial : σ) :
    ∃ worker, (Worker.create name handler initial).start = .ok worker ∧
      worker.Attends handler initial [] :=
  ⟨_, rfl, rfl, rfl, .serving [] rfl rfl rfl (fun _ => rfl)⟩

/-- A packet at the end of an open queue is served last, or not at all after a failure. -/
theorem Attends.send
    {worker : Worker σ}
    {offered : List Packet}
    (attends : worker.Attends handler initial offered)
    (packet : Packet) :
    (worker.send packet).1.Attends handler initial (offered ++ [packet]) := by
  obtain ⟨work, joined, progress⟩ := attends
  cases progress with
  | serving queued running accepting queue state =>
      have sent : (worker.send packet).1 =
          { worker with queue := worker.queue ++ [.packet packet] } := by
        simp only [Worker.send, isOpen, running, if_true]
      rw [sent]
      refine ⟨work, joined, .serving (queued ++ [packet]) running accepting ?_ ?_⟩
      · rw [queue, List.map_append, List.map_singleton]
      · -- The invariant speaks of all that may follow, so also of what begins with the packet.
        intro later
        rw [List.append_assoc, List.append_assoc]
        exact state ([packet] ++ later)
  | faulted stage refusing state =>
      have unserved : ∀ later, worker.state =
          handler.serve initial (offered ++ [packet] ++ later) := by
        intro later
        rw [List.append_assoc]
        exact state ([packet] ++ later)
      unfold Worker.send
      by_cases isOpen : worker.isOpen
      · rw [if_pos isOpen]
        exact ⟨work, joined, .faulted stage refusing unserved⟩
      · rw [if_neg isOpen]
        exact ⟨work, joined, .faulted stage refusing unserved⟩

/-- A packet that is offered joins those that the worker attends to. -/
theorem Attends.enqueue
    {worker : Worker σ}
    {offered : List Packet}
    (attends : worker.Attends handler initial offered)
    (packet : Packet) :
    (worker.enqueue packet).1.Attends handler initial (offered ++ [packet]) := by
  unfold Worker.enqueue
  by_cases accepting : worker.accepting
  · rw [if_pos accepting]
    exact attends.send packet
  · rw [if_neg accepting]
    obtain ⟨work, joined, progress⟩ := attends
    cases progress with
    | serving queued running accepts queue state => exact absurd accepts accepting
    | faulted stage refusing state =>
        refine ⟨work, joined, .faulted stage refusing ?_⟩
        intro later
        rw [List.append_assoc]
        exact state ([packet] ++ later)

/-- The thread serves the first packet of its queue, and a fatal failure ends the service. -/
theorem Attends.consume
    {worker : Worker σ}
    {offered : List Packet}
    (attends : worker.Attends handler initial offered) :
    worker.consume.Attends handler initial offered := by
  obtain ⟨work, joined, progress⟩ := attends
  subst work
  cases progress with
  | serving queued running accepting queue state =>
      cases queued with
      | nil =>
          have same : worker.consume = worker := by
            simp only [Worker.consume, running, queue, List.map_nil]
          rw [same]
          exact ⟨rfl, joined, .serving [] running accepting queue state⟩
      | cons packet queued =>
          cases fatal : (worker.handler.handle worker.state packet).2.isFatal with
          | true =>
              rw [consume_of_fatal running queue fatal]
              refine ⟨rfl, joined, .faulted (.inl rfl) rfl ?_⟩
              intro later
              rw [← state later, List.cons_append, Handler.serve, if_pos fatal]
          | false =>
              rw [consume_of_not_fatal running queue fatal]
              refine ⟨rfl, joined, .serving queued running accepting rfl ?_⟩
              intro later
              rw [← state later, List.cons_append, Handler.serve, fatal]
              rfl
  | faulted stage refusing state =>
      have outside : worker.stage ≠ .running := by
        rcases stage with closing | exited
        · simp [closing]
        · simp [exited]
      rw [consume_of_not_running outside]
      exact ⟨rfl, joined, .faulted stage refusing state⟩

theorem Attends.close
    (rests : handler.Rests)
    {worker : Worker σ}
    {offered : List Packet}
    (attends : worker.Attends handler initial offered) :
    worker.close.Attends handler initial offered := by
  obtain ⟨work, joined, progress⟩ := attends
  cases progress with
  | serving queued running accepting queue state =>
      rw [close_of_not_closing (by simp [running])]
      exact ⟨work, joined, .serving queued running accepting queue state⟩
  | faulted stage refusing state =>
      rcases stage with closing | exited
      · rw [close_eq closing, work, rests worker.state]
        exact ⟨rfl, joined, .faulted (.inr rfl) rfl state⟩
      · rw [close_of_not_closing (by simp [exited])]
        exact ⟨work, joined, .faulted (.inr exited) refusing state⟩

/-- However many messages the thread takes, what was offered is served in its order. -/
theorem Attends.consumeMany
    {worker : Worker σ}
    {offered : List Packet}
    (attends : worker.Attends handler initial offered)
    (count : Nat) :
    (worker.consumeMany count).Attends handler initial offered := by
  induction count generalizing worker with
  | zero => exact attends
  | succ count inductionHypothesis => exact inductionHypothesis attends.consume

/-- A worker that is left to run attends to the same packets as before. -/
theorem attends_settle
    (rests : handler.Rests)
    {worker : Worker σ}
    {offered : List Packet}
    (attends : worker.Attends handler initial offered) :
    worker.settle.Attends handler initial offered :=
  (attends.consumeMany worker.queue.length).close rests

/-- No operation but a stop takes the worker away from its producers. -/
theorem Attends.perform
    (rests : handler.Rests)
    {worker : Worker σ}
    {offered : List Packet}
    (attends : worker.Attends handler initial offered)
    {operation : WorkerOperation}
    (goesOn : operation ≠ .stop) :
    (worker.perform operation).Attends handler initial
      (offered ++ operation.packet?.toList) := by
  cases operation with
  | enqueue packet => exact attends.enqueue packet
  | send packet => exact attends.send packet
  | consume => simpa [WorkerOperation.packet?, Worker.perform] using attends.consume
  | close => simpa [WorkerOperation.packet?, Worker.perform] using attends.close rests
  | stop => exact absurd rfl goesOn

/-- Without a stop a worker has attended to all that was offered in a run. -/
theorem Attends.run
    (rests : handler.Rests)
    {worker : Worker σ}
    {offered : List Packet}
    (attends : worker.Attends handler initial offered)
    {operations : List WorkerOperation}
    (goesOn : ∀ operation ∈ operations, operation ≠ .stop) :
    (worker.run operations).Attends handler initial
      (offered ++ offeredIn operations) := by
  induction operations generalizing worker offered with
  | nil =>
      simpa [offeredIn, Worker.run] using attends
  | cons operation operations inductionHypothesis =>
      have next := attends.perform rests (goesOn operation List.mem_cons_self)
      have later : ∀ other ∈ operations, other ≠ .stop := by
        intro other member
        exact goesOn other (List.mem_cons_of_mem operation member)
      rw [offeredIn_cons, ← List.append_assoc]
      exact inductionHypothesis next later

/-! ## Shutting down -/

/-- A thread that has exited with a state, and whose owner has not taken the handler back. -/
structure Rested
    (final : σ)
    (worker : Worker σ) :
    Prop where
  exited : worker.stage = .exited
  joined : worker.joined = false
  state : worker.state = final

/-- The owner that joins a rested thread gets the state that it has exited with. -/
theorem Rested.join
    {worker : Worker σ}
    {final : σ}
    (rested : worker.Rested final) :
    ∃ ended, worker.join = (ended, some final) ∧ ended.state = final := by
  have held := hasThread_of_started (by simp [rested.exited]) rested.joined
  refine ⟨{ worker with joined := true }, ?_, rested.state⟩
  simp only [Worker.join, held, if_true, rested.exited, rested.state]

/-- A thread that closes with a handler that rests has exited with the state it had. -/
theorem rested_close
    (rests : handler.Rests)
    {worker : Worker σ}
    {faulted : Bool}
    {final : σ}
    (work : worker.handler = handler)
    (joined : worker.joined = false)
    (closing : worker.stage = .closing faulted)
    (state : worker.state = final) :
    worker.close.Rested final := by
  rw [close_eq closing, work, rests worker.state]
  exact ⟨rfl, joined, state⟩

/-- With a step for each queued packet and one for the stop message, a thread serves and exits. -/
theorem rested_of_stopping
    (rests : handler.Rests)
    {worker : Worker σ}
    {queued : List Packet}
    {current : σ}
    (work : worker.handler = handler)
    (joined : worker.joined = false)
    (running : worker.stage = .running)
    (queue : worker.queue = queued.map .packet ++ [.stop])
    (state : worker.state = current) :
    (worker.consumeMany (queued.length + 1)).close.Rested (handler.serve current queued) := by
  induction queued generalizing worker current with
  | nil =>
      have stopped : worker.consume =
          { worker with queue := [], stage := .closing false } := by
        simp only [Worker.consume, running, queue, List.map_nil, List.nil_append]
      rw [List.length_nil, consumeMany, stopped]
      apply rested_close rests
      · exact work
      · exact joined
      · rfl
      · exact state
  | cons packet queued inductionHypothesis =>
      subst work
      subst state
      rw [List.length_cons, consumeMany, Handler.serve]
      cases fatal : (worker.handler.handle worker.state packet).2.isFatal with
      | true =>
          rw [consume_of_fatal running queue fatal, consumeMany_of_not_running (by simp),
            if_pos rfl]
          apply rested_close rests
          · rfl
          · exact joined
          · rfl
          · rfl
      | false =>
          rw [consume_of_not_fatal running queue fatal, if_neg Bool.false_ne_true]
          apply inductionHypothesis
          · rfl
          · exact joined
          · exact running
          · rfl
          · rfl

/-- Shutting a worker down leaves its handler with all that was offered served. -/
theorem Attends.shutdown
    (rests : handler.Rests)
    {worker : Worker σ}
    {offered : List Packet}
    (attends : worker.Attends handler initial offered) :
    ∃ ended, worker.shutdown = (ended, some (handler.serve initial offered)) ∧
      ended.state = handler.serve initial offered := by
  have rested : worker.stop.settle.Rested (handler.serve initial offered) := by
    obtain ⟨work, joined, progress⟩ := attends
    cases progress with
    | serving queued running accepting queue state =>
        have held := hasThread_of_started (by simp [running]) joined
        have stopped := stop_of_isOpen held (by rw [isOpen, running])
        rw [queue] at stopped
        have served := state []
        rw [List.append_nil, List.append_nil] at served
        rw [stopped, settle, List.length_append, List.length_map, List.length_singleton, ← served]
        apply rested_of_stopping rests
        · exact work
        · exact joined
        · exact running
        · rfl
        · rfl
    | faulted stage refusing state =>
        have served := state []
        rw [List.append_nil] at served
        rcases stage with closing | exited
        · have held := hasThread_of_started (by simp [closing]) joined
          rw [stop_of_isOpen held (by rw [isOpen, closing]), settle,
            consumeMany_of_not_running (by simp [closing])]
          apply rested_close rests
          · exact work
          · exact joined
          · exact closing
          · exact served
        · have held := hasThread_of_started (by simp [exited]) joined
          have stopped : worker.stop = { worker with accepting := false } := by
            simp [Worker.stop, held, refuse, sendStop, isOpen, exited]
          rw [stopped, settle, consumeMany_of_not_running (by simp [exited]),
            close_of_not_closing (by simp [exited])]
          exact ⟨exited, joined, served⟩
  exact rested.join

end Worker

end DroneSession
