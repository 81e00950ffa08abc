import DroneSession.Proofs.Worker.Reports

namespace DroneSession

/-!
# The exit of a worker's thread

A worker that was started can be stopped and joined at any time: behind the stop message the thread
leaves its loop, and when it has closed, its owner gets the handler back.
-/

namespace Worker

variable {σ : Type}

/-- Taking a message changes neither the handler nor the owner's hold on the thread. -/
theorem consume_keeps
    (worker : Worker σ) :
    worker.consume.handler = worker.handler ∧ worker.consume.joined = worker.joined := by
  have taken := worker.consumeCase
  generalize worker.consume = next at taken ⊢
  cases taken with
  | packet packet others running front =>
      rw [process_eq]
      exact ⟨rfl, rfl⟩
  | stop others running front => exact ⟨rfl, rfl⟩
  | nothing idle => exact ⟨rfl, rfl⟩

/-- However many messages it takes, a thread has the same handler and is joined or not as before. -/
theorem consumeMany_keeps
    (worker : Worker σ)
    (count : Nat) :
    (worker.consumeMany count).handler = worker.handler ∧
      (worker.consumeMany count).joined = worker.joined := by
  induction count generalizing worker with
  | zero => exact ⟨rfl, rfl⟩
  | succ count inductionHypothesis =>
      obtain ⟨work, joined⟩ := inductionHypothesis worker.consume
      obtain ⟨workBefore, joinedBefore⟩ := worker.consume_keeps
      exact ⟨work.trans workBefore, joined.trans joinedBefore⟩

/-- With a step for each message the thread comes to the stop message or to a fatal failure. -/
theorem exists_closing_of_stop
    {worker : Worker σ}
    (running : worker.stage = .running)
    (stopped : .stop ∈ worker.queue) :
    ∃ faulted, (worker.consumeMany worker.queue.length).stage = .closing faulted := by
  induction queue : worker.queue generalizing worker with
  | nil =>
      rw [queue] at stopped
      cases stopped
  | cons message others inductionHypothesis =>
      rw [List.length_cons, consumeMany]
      cases message with
      | stop =>
          have left : worker.consume =
              { worker with queue := others, stage := .closing false } := by
            simp only [consume, running, queue]
          rw [left, consumeMany_of_not_running (by simp)]
          exact ⟨false, rfl⟩
      | packet packet =>
          cases fatal : (worker.handler.handle worker.state packet).2.isFatal with
          | true =>
              rw [consume_of_fatal running queue fatal, consumeMany_of_not_running (by simp)]
              exact ⟨true, rfl⟩
          | false =>
              rw [consume_of_not_fatal running queue fatal]
              rw [queue, List.mem_cons] at stopped
              exact inductionHypothesis running (stopped.resolve_left (by simp)) rfl

/-- The call that stops a worker does not wait for its thread. -/
theorem stage_stop (worker : Worker σ) : worker.stop.stage = worker.stage := by
  unfold stop sendStop
  split
  · split <;> rfl
  · rfl

/-- A thread that has left its loop and runs until it waits closes its queue. -/
theorem isOpen_settle
    {worker : Worker σ}
    (started : worker.stage ≠ .fresh)
    (left : worker.stage ≠ .running) :
    worker.settle.isOpen = false := by
  rw [settle, consumeMany_of_not_running left]
  cases stage : worker.stage with
  | fresh => exact absurd stage started
  | running => exact absurd stage left
  | closing faulted => exact (closed_of_closing stage).2
  | exited => rw [close_of_not_closing (by simp [stage]), isOpen, stage]
  | lost => rw [close_of_not_closing (by simp [stage]), isOpen, stage]

/-- A thread that is held and was stopped closes its queue if it is left to run. -/
theorem isOpen_settle_stop
    {worker : Worker σ}
    (held : worker.hasThread = true) :
    worker.stop.settle.isOpen = false := by
  by_cases running : worker.stage = .running
  · obtain ⟨faulted, closing⟩ := @exists_closing_of_stop σ worker.stop
      (worker.stage_stop.trans running)
      (by rw [stop_of_isOpen held (by rw [isOpen, running])]; simp)
    exact (closed_of_closing closing).2
  · have started : worker.stage ≠ .fresh := by
      intro new
      simp [hasThread, new] at held
    rw [← stage_stop] at started running
    exact isOpen_settle started running

/-- The owner gets a handler back only from a thread that has exited, in the state it ended in. -/
theorem exited_of_join
    {worker ended : Worker σ}
    {state : σ}
    (joined : worker.join = (ended, some state)) :
    worker.stage = .exited ∧ state = worker.state ∧ ended = { worker with joined := true } := by
  unfold join at joined
  split at joined
  · split at joined
    · rename_i exited
      obtain ⟨rfl, same⟩ := Prod.mk.inj joined
      exact ⟨exited, (Option.some.inj same).symm, rfl⟩
    · cases joined
    · cases joined
  · cases joined

end Worker

namespace Handler

variable {σ : Type}

/-- A handler that does not panic while it finishes. -/
def FinishesCalmly (handler : Handler σ) : Prop :=
  ∀ state, (handler.finish state).2.isPanic = false

/-- A handler that does not panic at its end leaves its thread properly exited. -/
theorem FinishesCalmly.lastStage_eq
    {handler : Handler σ}
    (calm : handler.FinishesCalmly)
    (state : σ) :
    handler.lastStage state = .exited := by
  simp only [lastStage, calm state, Bool.false_eq_true, if_false]

end Handler

/-- Whether a step is one of the owner or the thread that brings a worker to its end. -/
def TrafficStep.endsWorker : TrafficStep → Bool
  | .beginStop => true
  | .finishStop => true
  | .consume => true
  | .close => true
  | _ => false

namespace Traffic

variable {σ : Type} {name : String} {handler : Handler σ} {initial : σ}

/-- The two steps of an undisturbed stop are the whole call. -/
theorem worker_stop
    {traffic : Traffic σ}
    (held : traffic.worker.hasThread = true) :
    (traffic.run [.beginStop, .finishStop]).worker = traffic.worker.stop := by
  simp only [run, List.foldl_cons, List.foldl_nil, perform, beginStop, finishStop, held, if_true,
    Worker.stop]

theorem worker_consumeMany
    (traffic : Traffic σ)
    (count : Nat) :
    (traffic.run (List.replicate count .consume)).worker = traffic.worker.consumeMany count := by
  induction count generalizing traffic with
  | zero => rfl
  | succ count inductionHypothesis =>
      exact inductionHypothesis (traffic.perform .consume)

/-- Without a panic of the finishing handler its state is never lost. -/
theorem Reported.not_lost
    (calm : handler.FinishesCalmly)
    {handled : List Packet}
    {stage : ThreadStage}
    {notifications : List Notification}
    (reported : Reported name handler initial handled stage notifications) :
    stage ≠ .lost := by
  have last := calm.lastStage_eq (handler.handleAll initial handled)
  cases reported with
  | sound inside => rcases inside with rfl | rfl | rfl <;> simp
  | halted left =>
      rw [last] at left
      rcases left with rfl | rfl <;> simp
  | finished closed => simp [closed, last]

/-- A thread that has left its loop closes, and then its owner can join it. -/
theorem join_of_closing
    (calm : handler.FinishesCalmly)
    {traffic : Traffic σ}
    (work : traffic.worker.handler = handler)
    (unjoined : traffic.worker.joined = false)
    {faulted : Bool}
    (closing : traffic.worker.stage = .closing faulted) :
    (traffic.perform .close).worker.join.2.isSome = true := by
  have closed := Worker.close_eq closing
  have exited : traffic.worker.close.stage = .exited := by
    rw [closed, work, calm]
    rfl
  have stillUnjoined : traffic.worker.close.joined = false := by
    rw [closed]
    exact unjoined
  rw [perform, Worker.join_of_exited exited stillUnjoined]
  rfl

/-- The steps that let a thread in its loop come to its end. -/
def endingSteps (traffic : Traffic σ) : List TrafficStep :=
  [.beginStop, .finishStop] ++
    List.replicate (traffic.worker.queue.length + 1) .consume ++ [.close]

/-- A thread that was left to come to its end gives the handler back to the owner that joins it. -/
theorem join_of_running
    (calm : handler.FinishesCalmly)
    {traffic : Traffic σ}
    (work : traffic.worker.handler = handler)
    (unjoined : traffic.worker.joined = false)
    (running : traffic.worker.stage = .running) :
    (traffic.run traffic.endingSteps).worker.join.2.isSome = true := by
  have held : traffic.worker.hasThread = true :=
    Worker.hasThread_of_started (by simp [running]) unjoined
  have stopped := (traffic.worker_stop held).trans
    (Worker.stop_of_isOpen held (by rw [Worker.isOpen, running]))
  rw [endingSteps, run_append, run_append]
  generalize traffic.run [.beginStop, .finishStop] = stopping at stopped ⊢
  have runningStill : stopping.worker.stage = .running := by
    rw [stopped]
    exact running
  have behind : stopping.worker.queue = traffic.worker.queue ++ [.stop] := by
    rw [stopped]
  have size : stopping.worker.queue.length = traffic.worker.queue.length + 1 := by
    rw [behind, List.length_append, List.length_singleton]
  obtain ⟨faulted, closing⟩ :=
    Worker.exists_closing_of_stop runningStill (by simp [behind])
  obtain ⟨keptWork, keptJoined⟩ := stopping.worker.consumeMany_keeps stopping.worker.queue.length
  rw [← stopping.worker_consumeMany, size] at closing keptWork keptJoined
  refine join_of_closing calm ?_ ?_ closing
  · rw [keptWork, stopped]
    exact work
  · rw [keptJoined, stopped]
    exact unjoined

/-- Whatever has happened, a worker that was started and not joined can be stopped and joined. -/
theorem exists_join
    (calm : handler.FinishesCalmly)
    {traffic : Traffic σ}
    (carries : traffic.Carries handler initial)
    (accounts : traffic.Accounts name handler initial)
    (started : traffic.worker.stage ≠ .fresh)
    (unjoined : traffic.worker.joined = false) :
    ∃ later : List TrafficStep, (∀ step ∈ later, step.endsWorker = true) ∧
      (traffic.run later).worker.join.2.isSome = true := by
  cases stage : traffic.worker.stage with
  | fresh => exact absurd stage started
  | running =>
      refine ⟨traffic.endingSteps, ?_, join_of_running calm carries.work unjoined stage⟩
      intro step member
      simp only [endingSteps, List.mem_append, List.mem_cons, List.mem_replicate] at member
      rcases member with ((rfl | rfl | none) | ⟨-, rfl⟩) | rfl | none
      · rfl
      · rfl
      · cases none
      · rfl
      · rfl
      · cases none
  | closing faulted =>
      refine ⟨[.close], ?_, join_of_closing calm carries.work unjoined stage⟩
      intro step member
      rw [List.mem_singleton.mp member]
      rfl
  | exited =>
      refine ⟨[], by simp, ?_⟩
      change traffic.worker.join.2.isSome = true
      rw [Worker.join_of_exited stage unjoined]
      rfl
  | lost => exact absurd stage (accounts.reported.not_lost calm)

end Traffic

end DroneSession
