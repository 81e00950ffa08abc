import DroneSession.Proofs.Worker.Step

namespace DroneSession

/-!
# Sessions of a worker

Producers, the owner and the thread of a worker act in any order.  As long as nobody stops the
worker, what was accepted is what was handled followed by what is queued; after the stop the thread
still handles everything that was accepted before, and nothing else.
-/

/-- One thing that happens to a worker that was started. -/
inductive WorkerOperation where
  /-- A producer reads the accepting flag and sends a packet. -/
  | enqueue (packet : Packet)
  /-- A producer sends a packet after it has read the flag at an earlier time. -/
  | send (packet : Packet)
  /-- The thread takes a message. -/
  | consume
  /-- The thread leaves its loop behind. -/
  | close
  /-- The owner stops the worker. -/
  | stop
  deriving DecidableEq

/-- The packet that a producer offers in an operation. -/
def WorkerOperation.packet? : WorkerOperation → Option Packet
  | .enqueue packet => some packet
  | .send packet => some packet
  | _ => none

@[simp] theorem WorkerOperation.packet?_consume : WorkerOperation.consume.packet? = none :=
  rfl

@[simp] theorem WorkerOperation.packet?_close : WorkerOperation.close.packet? = none :=
  rfl

/-- The packets that are offered in some operations. -/
def offeredIn (operations : List WorkerOperation) : List Packet :=
  operations.filterMap WorkerOperation.packet?

theorem offeredIn_cons
    (operation : WorkerOperation)
    (operations : List WorkerOperation) :
    offeredIn (operation :: operations) =
      operation.packet?.toList ++ offeredIn operations := by
  unfold offeredIn
  rw [List.filterMap_cons]
  cases operation.packet? <;> rfl

namespace Worker

variable {σ : Type}

/-- The worker after an operation. -/
def perform
    (worker : Worker σ) :
    WorkerOperation → Worker σ
  | .enqueue packet => (worker.enqueue packet).1
  | .send packet => (worker.send packet).1
  | .consume => worker.consume
  | .close => worker.close
  | .stop => worker.stop

/-- The packet that an operation brings to the queue; the producer is told whether it did. -/
def accepts?
    (worker : Worker σ) :
    WorkerOperation → Option Packet
  | .enqueue packet => if (worker.enqueue packet).2 then some packet else none
  | .send packet => if (worker.send packet).2 then some packet else none
  | _ => none

/-- The worker after some operations. -/
def run
    (worker : Worker σ)
    (operations : List WorkerOperation) :
    Worker σ :=
  operations.foldl perform worker

theorem run_append
    (worker : Worker σ)
    (first second : List WorkerOperation) :
    worker.run (first ++ second) = (worker.run first).run second :=
  List.foldl_append

/-- The packets that were accepted during some operations, in the order of the queue. -/
def accepted
    (worker : Worker σ) :
    List WorkerOperation → List Packet
  | [] => []
  | operation :: operations =>
      (worker.accepts? operation).toList ++ (worker.perform operation).accepted operations

end Worker

namespace Handler

variable {σ : Type}

/-- A handler that never gives its worker anything to report. -/
structure Quiet (handler : Handler σ) : Prop where
  handle : ∀ state packet,
    (handler.handle state packet).2 = .done ∨
      ∃ error, (handler.handle state packet).2 = .failed error ∧ error.isAbsorbed = true
  finish : ∀ state, (handler.finish state).2 = .done

end Handler

namespace Worker

variable {σ : Type} {handler : Handler σ} {initial : σ}

/-- A worker that nobody has stopped: the packets that were handled, and those that are queued. -/
structure Serves
    (handler : Handler σ)
    (initial : σ)
    (handled queued : List Packet)
    (worker : Worker σ) :
    Prop where
  work : worker.handler = handler
  stage : worker.stage = .running
  accepting : worker.accepting = true
  joined : worker.joined = false
  queue : worker.queue = queued.map .packet
  state : worker.state = handler.handleAll initial handled
  silent : worker.notifications = []

/-- How far the thread has come after the stop; behind the stop message anything may be queued. -/
inductive Departs
    (handler : Handler σ)
    (initial : σ)
    (sent : List Packet) :
    ThreadStage → List Message → σ → Prop where
  | draining
      (handled queued : List Packet)
      (late : List Message)
      (parts : sent = handled ++ queued) :
      Departs handler initial sent .running
        (queued.map .packet ++ .stop :: late)
        (handler.handleAll initial handled)
  | closing (late : List Message) :
      Departs handler initial sent (.closing false) late (handler.handleAll initial sent)
  | exited :
      Departs handler initial sent .exited [] (handler.finish (handler.handleAll initial sent)).1

/-- A worker that was stopped after some packets had been sent. -/
structure Leaves
    (handler : Handler σ)
    (initial : σ)
    (sent : List Packet)
    (worker : Worker σ) :
    Prop where
  work : worker.handler = handler
  joined : worker.joined = false
  silent : worker.notifications = []
  departs : Departs handler initial sent worker.stage worker.queue worker.state

/-! ## Before the stop -/

/-- A quiet handler keeps its worker in the loop and gives it nothing to report. -/
theorem not_fatal_of_quiet
    (quiet : handler.Quiet)
    (name : String)
    (state : σ)
    (packet : Packet) :
    (handler.handle state packet).2.isFatal = false ∧
      (handler.handle state packet).2.reports name = [] := by
  rcases quiet.handle state packet with done | ⟨error, failed, absorbed⟩
  · rw [done]
    exact ⟨rfl, rfl⟩
  · simp [failed, absorbed, HandlerOutcome.isFatal, HandlerOutcome.reports]

/-- Taking a packet hands it to a quiet handler and changes nothing else. -/
theorem consume_packet
    (quiet : handler.Quiet)
    {worker : Worker σ}
    {packet : Packet}
    {others : List Message}
    (work : worker.handler = handler)
    (running : worker.stage = .running)
    (front : worker.queue = .packet packet :: others) :
    worker.consume =
      { worker with
        queue := others
        state := (handler.handle worker.state packet).1 } := by
  subst work
  obtain ⟨goesOn, silent⟩ := not_fatal_of_quiet quiet worker.name worker.state packet
  rw [consume_of_not_fatal running front goesOn, silent, List.append_nil]

/-- A worker that has just been started has handled and queued nothing. -/
theorem Serves.start
    (name : String) :
    ∃ worker, (Worker.create name handler initial).start = .ok worker ∧
      worker.Serves handler initial [] [] := by
  refine ⟨_, rfl, ?_⟩
  constructor <;> rfl

/-- Until the stop every packet that is offered is accepted. -/
theorem Serves.accepts?_eq
    {worker : Worker σ}
    {handled queued : List Packet}
    (serves : worker.Serves handler initial handled queued)
    (operation : WorkerOperation) :
    worker.accepts? operation = operation.packet? := by
  cases operation <;>
    simp only [accepts?, enqueue, Worker.send, isOpen, serves.accepting, serves.stage, if_true,
      WorkerOperation.packet?]

/-- A packet that is sent waits behind those that are queued. -/
theorem Serves.send
    {worker : Worker σ}
    {handled queued : List Packet}
    (serves : worker.Serves handler initial handled queued)
    (packet : Packet) :
    (worker.send packet).1.Serves handler initial handled (queued ++ [packet]) := by
  have sent : (worker.send packet).1 =
      { worker with queue := worker.queue ++ [.packet packet] } := by
    simp only [Worker.send, isOpen, serves.stage, if_true]
  rw [sent]
  refine { serves with queue := ?_ }
  rw [serves.queue, List.map_append, List.map_singleton]

/-- A step before the stop moves packets forward and loses none. -/
theorem Serves.perform
    (quiet : handler.Quiet)
    {worker : Worker σ}
    {handled queued : List Packet}
    (serves : worker.Serves handler initial handled queued)
    {operation : WorkerOperation}
    (goesOn : operation ≠ .stop) :
    ∃ handledNext queuedNext : List Packet,
      (worker.perform operation).Serves handler initial handledNext queuedNext ∧
      handledNext ++ queuedNext = handled ++ queued ++ operation.packet?.toList := by
  cases operation with
  | enqueue packet =>
      have same : worker.perform (.enqueue packet) = (worker.send packet).1 := by
        simp only [Worker.perform, Worker.enqueue, serves.accepting, if_true]
      rw [same]
      exact ⟨handled, queued ++ [packet], serves.send packet, by simp [WorkerOperation.packet?]⟩
  | send packet =>
      exact ⟨handled, queued ++ [packet], serves.send packet, by simp [WorkerOperation.packet?]⟩
  | consume =>
      cases queued with
      | nil =>
          have same : worker.perform .consume = worker := by
            simp only [Worker.perform, consume, serves.stage, serves.queue, List.map_nil]
          rw [same]
          exact ⟨handled, [], serves, by simp [WorkerOperation.packet?]⟩
      | cons packet queued =>
          have step := consume_packet quiet serves.work serves.stage serves.queue
          rw [serves.state, ← Handler.handleAll_concat] at step
          rw [Worker.perform, step]
          refine ⟨handled ++ [packet], queued, ?_, by simp [WorkerOperation.packet?]⟩
          exact { serves with queue := rfl, state := rfl }
  | close =>
      have same : worker.perform .close = worker := by
        simp only [Worker.perform, Worker.close, serves.stage]
      rw [same]
      exact ⟨handled, queued, serves, by simp [WorkerOperation.packet?]⟩
  | stop =>
      exact absurd rfl goesOn

/--
Until the stop everything that is offered is accepted, and what was accepted is what was handled
and what is queued, in this order.
-/
theorem Serves.run
    (quiet : handler.Quiet)
    {worker : Worker σ}
    {handled queued : List Packet}
    (serves : worker.Serves handler initial handled queued)
    {operations : List WorkerOperation}
    (goesOn : ∀ operation ∈ operations, operation ≠ .stop) :
    ∃ handledNext queuedNext : List Packet,
      (worker.run operations).Serves handler initial handledNext queuedNext ∧
      handledNext ++ queuedNext = handled ++ queued ++ worker.accepted operations ∧
      worker.accepted operations = operations.filterMap WorkerOperation.packet? := by
  induction operations generalizing worker handled queued with
  | nil =>
      exact ⟨handled, queued, serves, by simp [accepted], rfl⟩
  | cons operation operations inductionHypothesis =>
      obtain ⟨handledNext, queuedNext, next, moved⟩ :=
        serves.perform quiet (goesOn operation List.mem_cons_self)
      have later : ∀ other ∈ operations, other ≠ .stop := by
        intro other member
        exact goesOn other (List.mem_cons_of_mem operation member)
      obtain ⟨handledLast, queuedLast, last, kept, offered⟩ := inductionHypothesis next later
      refine ⟨handledLast, queuedLast, last, ?_, ?_⟩
      · rw [kept, moved, accepted, serves.accepts?_eq, List.append_assoc (handled ++ queued)]
      · rw [accepted, offered, serves.accepts?_eq]
        exact (offeredIn_cons operation operations).symm

/-! ## After the stop -/

/-- A stop leaves the thread to handle what was handled and queued so far, and no more. -/
theorem Serves.stop
    {worker : Worker σ}
    {handled queued : List Packet}
    (serves : worker.Serves handler initial handled queued) :
    worker.stop.Leaves handler initial (handled ++ queued) := by
  have held := hasThread_of_started (by simp [serves.stage]) serves.joined
  rw [stop_of_isOpen held (by rw [isOpen, serves.stage]), serves.queue]
  refine ⟨serves.work, serves.joined, serves.silent, ?_⟩
  simp only [serves.stage, serves.state]
  exact .draining handled queued [] rfl

/-- Messages that arrive after the stop stay behind the stop message. -/
theorem Departs.append
    {sent : List Packet}
    {stage : ThreadStage}
    {queue : List Message}
    {state : σ}
    (departs : Departs handler initial sent stage queue state)
    (inside : stage ≠ .exited)
    (message : Message) :
    Departs handler initial sent stage (queue ++ [message]) state := by
  cases departs with
  | draining handled queued late parts =>
      rw [List.append_assoc, List.cons_append]
      exact .draining handled queued (late ++ [message]) parts
  | closing => exact .closing (queue ++ [message])
  | exited => exact absurd rfl inside

/-- What is queued behind the stop message is never handled. -/
theorem Leaves.append
    {worker : Worker σ}
    {sent : List Packet}
    (leaves : worker.Leaves handler initial sent)
    (isOpen : worker.isOpen = true)
    (message : Message) :
    { worker with queue := worker.queue ++ [message] }.Leaves handler initial sent := by
  have inside : worker.stage ≠ .exited := by
    intro exited
    rw [Worker.isOpen, exited] at isOpen
    cases isOpen
  exact ⟨leaves.work, leaves.joined, leaves.silent, leaves.departs.append inside message⟩

/-- A packet that is sent after the stop does not count. -/
theorem Leaves.send
    {worker : Worker σ}
    {sent : List Packet}
    (leaves : worker.Leaves handler initial sent)
    (packet : Packet) :
    (worker.send packet).1.Leaves handler initial sent := by
  unfold Worker.send
  by_cases isOpen : worker.isOpen
  · rw [if_pos isOpen]
    exact leaves.append isOpen (.packet packet)
  · rw [if_neg isOpen]
    exact leaves

/-- A second stop message changes nothing. -/
theorem Leaves.sendStop
    {worker : Worker σ}
    {sent : List Packet}
    (leaves : worker.Leaves handler initial sent) :
    worker.sendStop.Leaves handler initial sent := by
  unfold Worker.sendStop
  by_cases isOpen : worker.isOpen
  · rw [if_pos isOpen]
    exact leaves.append isOpen .stop
  · rw [if_neg isOpen]
    exact leaves

theorem Leaves.stop
    {worker : Worker σ}
    {sent : List Packet}
    (leaves : worker.Leaves handler initial sent) :
    worker.stop.Leaves handler initial sent := by
  have refused : worker.refuse.Leaves handler initial sent :=
    ⟨leaves.work, leaves.joined, leaves.silent, leaves.departs⟩
  unfold Worker.stop
  by_cases held : worker.hasThread
  · rw [if_pos held]
    exact refused.sendStop
  · rw [if_neg held]
    exact leaves

/-- The thread goes on with what was sent before the stop, up to the stop message. -/
theorem Leaves.consume
    (quiet : handler.Quiet)
    {worker : Worker σ}
    {sent : List Packet}
    (leaves : worker.Leaves handler initial sent) :
    worker.consume.Leaves handler initial sent := by
  have departs := leaves.departs
  generalize atStage : worker.stage = stage at departs
  generalize atQueue : worker.queue = queue at departs
  generalize atState : worker.state = state at departs
  cases departs with
  | draining handled queued late parts =>
      cases queued with
      | nil =>
          rw [List.append_nil] at parts
          subst parts
          have step : worker.consume = { worker with queue := late, stage := .closing false } := by
            simp only [Worker.consume, atStage, atQueue, List.map_nil, List.nil_append]
          rw [step]
          refine ⟨leaves.work, leaves.joined, leaves.silent, ?_⟩
          simp only [atState]
          exact .closing late
      | cons packet queued =>
          have step := consume_packet quiet leaves.work atStage atQueue
          rw [step, atState, ← Handler.handleAll_concat]
          refine ⟨leaves.work, leaves.joined, leaves.silent, ?_⟩
          simp only [atStage]
          refine .draining (handled ++ [packet]) queued late ?_
          rw [parts, List.append_assoc, List.singleton_append]
  | closing late =>
      rw [consume_of_not_running (by simp [atStage])]
      exact leaves
  | exited =>
      rw [consume_of_not_running (by simp [atStage])]
      exact leaves

/-- Closing behind the stop message lets a quiet handler finish and reports nothing. -/
theorem close_of_closing
    (quiet : handler.Quiet)
    {worker : Worker σ}
    (work : worker.handler = handler)
    (closing : worker.stage = .closing false) :
    worker.close =
      { worker with
        state := (handler.finish worker.state).1
        accepting := false
        alive := false
        queue := []
        stage := .exited } := by
  simp only [Worker.close, closing, work, quiet.finish worker.state]

/-- Closing the queue completes what the thread was to handle. -/
theorem Leaves.close
    (quiet : handler.Quiet)
    {worker : Worker σ}
    {sent : List Packet}
    (leaves : worker.Leaves handler initial sent) :
    worker.close.Leaves handler initial sent := by
  have departs := leaves.departs
  generalize atStage : worker.stage = stage at departs
  generalize worker.queue = queue at departs
  generalize atState : worker.state = state at departs
  cases departs with
  | closing late =>
      rw [close_of_closing quiet leaves.work atStage, atState]
      exact ⟨leaves.work, leaves.joined, leaves.silent, .exited⟩
  | draining handled queued late parts =>
      rw [close_of_not_closing (by simp [atStage])]
      exact leaves
  | exited =>
      rw [close_of_not_closing (by simp [atStage])]
      exact leaves

/-- No operation after the stop changes what the thread has left to handle. -/
theorem Leaves.perform
    (quiet : handler.Quiet)
    {worker : Worker σ}
    {sent : List Packet}
    (leaves : worker.Leaves handler initial sent)
    (operation : WorkerOperation) :
    (worker.perform operation).Leaves handler initial sent := by
  cases operation with
  | enqueue packet =>
      change (worker.enqueue packet).1.Leaves handler initial sent
      unfold Worker.enqueue
      by_cases accepting : worker.accepting
      · rw [if_pos accepting]
        exact leaves.send packet
      · rw [if_neg accepting]
        exact leaves
  | send packet => exact leaves.send packet
  | consume => exact leaves.consume quiet
  | close => exact leaves.close quiet
  | stop => exact leaves.stop

/-- However a session goes on after the stop, the thread has the same packets to handle. -/
theorem Leaves.run
    (quiet : handler.Quiet)
    {worker : Worker σ}
    {sent : List Packet}
    (leaves : worker.Leaves handler initial sent)
    (operations : List WorkerOperation) :
    (worker.run operations).Leaves handler initial sent := by
  induction operations generalizing worker with
  | nil => exact leaves
  | cons operation operations inductionHypothesis =>
      exact inductionHypothesis (leaves.perform quiet operation)

/-! ## The end of a session -/

/-- A thread that is in its loop after a step was in it before, and has taken a message. -/
theorem running_of_consume
    {worker : Worker σ}
    (running : worker.consume.stage = .running) :
    worker.stage = .running ∧ worker.consume.queue.length = worker.queue.length - 1 := by
  have taken := worker.consumeCase
  generalize worker.consume = next at taken running ⊢
  cases taken with
  | packet packet others atStage front =>
      rw [process_eq, front]
      exact ⟨atStage, rfl⟩
  | stop others atStage front => cases running
  | nothing idle =>
      rcases idle with outside | empty
      · exact absurd running outside
      · rw [empty]
        exact ⟨running, rfl⟩

/-- As long as a stopped thread is in its loop, at least the stop message is queued. -/
theorem Departs.queue_ne_nil
    {sent : List Packet}
    {queue : List Message}
    {state : σ}
    (departs : Departs handler initial sent .running queue state) :
    queue ≠ [] := by
  cases departs with
  | draining handled queued late parts => simp

/-- With a step for each message the thread comes to the stop message. -/
theorem Leaves.consumeMany
    (quiet : handler.Quiet)
    {worker : Worker σ}
    {sent : List Packet}
    (leaves : worker.Leaves handler initial sent)
    {count : Nat}
    (enough : worker.stage = .running → worker.queue.length ≤ count) :
    (worker.consumeMany count).Leaves handler initial sent ∧
      (worker.consumeMany count).stage ≠ .running := by
  induction count generalizing worker with
  | zero =>
      refine ⟨leaves, ?_⟩
      intro running
      change worker.stage = .running at running
      have departs := leaves.departs
      rw [running] at departs
      exact departs.queue_ne_nil (List.length_eq_zero_iff.mp (Nat.le_zero.mp (enough running)))
  | succ count inductionHypothesis =>
      refine inductionHypothesis (leaves.consume quiet) ?_
      intro running
      obtain ⟨runningBefore, shorter⟩ := running_of_consume running
      have bound := enough runningBefore
      omega

/-- A stopped thread that is outside its loop exits when it closes. -/
theorem Leaves.exits
    (quiet : handler.Quiet)
    {worker : Worker σ}
    {sent : List Packet}
    (leaves : worker.Leaves handler initial sent)
    (outside : worker.stage ≠ .running) :
    worker.close.stage = .exited := by
  have departs := leaves.departs
  generalize atStage : worker.stage = stage at departs outside
  generalize worker.queue = queue at departs
  generalize worker.state = state at departs
  cases departs with
  | draining handled queued late parts => exact absurd rfl outside
  | closing late => rw [close_of_closing quiet leaves.work atStage]
  | exited => simp only [Worker.close, atStage]

/--
A worker that was stopped and has closed its queue hands back what all that was sent leads to.
-/
theorem Leaves.join_of_closed
    {worker : Worker σ}
    {sent : List Packet}
    (leaves : worker.Leaves handler initial sent)
    (closed : worker.isOpen = false) :
    worker.join = ({ worker with joined := true },
      some (handler.finish (handler.handleAll initial sent)).1) := by
  have ended : worker.stage = .exited ∧
      worker.state = (handler.finish (handler.handleAll initial sent)).1 := by
    have departs := leaves.departs
    generalize atStage : worker.stage = stage at departs
    generalize worker.queue = queue at departs
    generalize worker.state = state at departs
    cases departs with
    | draining handled queued late parts => simp [isOpen, atStage] at closed
    | closing late => simp [isOpen, atStage] at closed
    | exited => exact ⟨rfl, rfl⟩
  rw [join_of_exited ended.1 leaves.joined, ended.2]

/-- A worker that was stopped hands its handler back, with everything handled that was sent. -/
theorem Leaves.settle_join
    (quiet : handler.Quiet)
    {worker : Worker σ}
    {sent : List Packet}
    (leaves : worker.Leaves handler initial sent) :
    ∃ ended, worker.settle.join =
        (ended, some (handler.finish (handler.handleAll initial sent)).1) ∧
      ended.notifications = [] := by
  obtain ⟨drained, outside⟩ := leaves.consumeMany quiet (fun _ => Nat.le_refl _)
  have closed := drained.close quiet
  have exits := drained.exits quiet outside
  change worker.settle.Leaves handler initial sent at closed
  change worker.settle.stage = .exited at exits
  exact ⟨_, closed.join_of_closed (by rw [isOpen, exits]), closed.silent⟩

/--
A session of a worker with a quiet handler: it accepts everything until the stop, reports nothing,
and hands back the state that the accepted packets lead to, whatever is tried after the stop.
-/
theorem session_of_quiet
    (quiet : handler.Quiet)
    (name : String)
    (initial : σ)
    {before : List WorkerOperation}
    (goesOn : ∀ operation ∈ before, operation ≠ .stop)
    (after : List WorkerOperation) :
    ∃ worker, (Worker.create name handler initial).start = .ok worker ∧
      worker.accepted before = before.filterMap WorkerOperation.packet? ∧
      (worker.run before).stage = .running ∧
      (worker.run before).notifications = [] ∧
      ∃ ended, ((worker.run before).stop.run after).settle.join =
          (ended, some (handler.finish (handler.handleAll initial (worker.accepted before))).1) ∧
        ended.notifications = [] := by
  obtain ⟨worker, started, fresh⟩ := @Serves.start σ handler initial name
  obtain ⟨handled, queued, serves, kept, offered⟩ := fresh.run quiet goesOn
  rw [List.append_nil, List.nil_append] at kept
  have leaves := (serves.stop.run quiet after).settle_join quiet
  rw [kept] at leaves
  exact ⟨worker, started, offered, serves.stage, serves.silent, leaves⟩

end Worker

end DroneSession
