import Mathlib.Data.List.Induction
import DroneSession.Proofs.Worker.Delivery

namespace DroneSession

/-!
# Watching a handler

A handler that keeps a log of its calls tells what a worker has asked of it, in which order, and
what came of each call.  It behaves otherwise like the handler that it watches, so whatever a worker
does with the one it does with the other.
-/

/-- A call of a handler, and what came of it. -/
inductive HandlerCall where
  | handle (packet : Packet) (outcome : HandlerOutcome)
  | finish (outcome : HandlerOutcome)
  deriving DecidableEq

/-- The packet that a handler was given in a call. -/
def HandlerCall.packet? : HandlerCall → Option Packet
  | .handle packet _ => some packet
  | .finish _ => none

namespace Handler

variable {σ : Type}

/-- The same handler with a log of its calls. -/
def logged (handler : Handler σ) : Handler (σ × List HandlerCall) where
  handle := fun (state, calls) packet =>
    let (next, outcome) := handler.handle state packet
    ((next, calls ++ [.handle packet outcome]), outcome)
  finish := fun (state, calls) =>
    let (next, outcome) := handler.finish state
    ((next, calls ++ [.finish outcome]), outcome)

/-- A watched handler deals with a packet as before, and the call is logged with its outcome. -/
theorem handle_logged
    (handler : Handler σ)
    (logging : σ × List HandlerCall)
    (packet : Packet) :
    handler.logged.handle logging packet =
      (((handler.handle logging.1 packet).1,
          logging.2 ++ [.handle packet (handler.handle logging.1 packet).2]),
        (handler.handle logging.1 packet).2) :=
  rfl

/-- A watched handler finishes as before, and the call is logged with its outcome. -/
theorem finish_logged
    (handler : Handler σ)
    (logging : σ × List HandlerCall) :
    handler.logged.finish logging =
      (((handler.finish logging.1).1,
          logging.2 ++ [.finish (handler.finish logging.1).2]),
        (handler.finish logging.1).2) :=
  rfl

/-- The calls that give a handler some packets one after another. -/
def callsOf
    (handler : Handler σ)
    (state : σ) :
    List Packet → List HandlerCall
  | [] => []
  | packet :: packets =>
      .handle packet (handler.handle state packet).2 ::
        handler.callsOf (handler.handle state packet).1 packets

/-- The log of some packets is their calls, behind what was logged before. -/
theorem handleAll_logged
    (handler : Handler σ)
    (state : σ)
    (calls : List HandlerCall)
    (packets : List Packet) :
    handler.logged.handleAll (state, calls) packets =
      (handler.handleAll state packets, calls ++ handler.callsOf state packets) := by
  induction packets generalizing state calls with
  | nil => exact congrArg (Prod.mk state) (List.append_nil calls).symm
  | cons packet packets inductionHypothesis =>
      have step : handler.logged.handleAll (state, calls) (packet :: packets) =
          handler.logged.handleAll
            ((handler.handle state packet).1,
              calls ++ [.handle packet (handler.handle state packet).2])
            packets := rfl
      rw [step, inductionHypothesis, List.append_assoc]
      rfl

/-- The call of a last packet is made in the state that the others have left. -/
theorem callsOf_concat
    (handler : Handler σ)
    (state : σ)
    (packets : List Packet)
    (packet : Packet) :
    handler.callsOf state (packets ++ [packet]) =
      handler.callsOf state packets ++
        [.handle packet (handler.handle (handler.handleAll state packets) packet).2] := by
  induction packets generalizing state with
  | nil => rfl
  | cons first packets inductionHypothesis =>
      rw [List.cons_append, callsOf, inductionHypothesis]
      rfl

end Handler

namespace Worker

variable {σ : Type}

/-- The worker around the handler that is watched. -/
def forget
    (handler : Handler σ)
    (worker : Worker (σ × List HandlerCall)) :
    Worker σ where
  name := worker.name
  handler := handler
  state := worker.state.1
  stage := worker.stage
  accepting := worker.accepting
  alive := worker.alive
  joined := worker.joined
  queue := worker.queue
  notifications := worker.notifications

variable {handler : Handler σ} {worker : Worker (σ × List HandlerCall)}

theorem forget_start :
    (worker.forget handler).start =
      worker.start.map (forget handler) := by
  have same : (worker.forget handler).stage = worker.stage := rfl
  unfold start
  rw [same]
  split <;> rfl

/-- A packet is sent to the queue whoever handles it. -/
theorem forget_send
    (packet : Packet) :
    (worker.forget handler).send packet =
      ((worker.send packet).1.forget handler, (worker.send packet).2) := by
  have same : (worker.forget handler).isOpen = worker.isOpen := rfl
  unfold send
  rw [same]
  split <;> rfl

/-- The flag that a call reads before it sends is none of the handler's either. -/
theorem forget_enqueue
    (packet : Packet) :
    (worker.forget handler).enqueue packet =
      ((worker.enqueue packet).1.forget handler, (worker.enqueue packet).2) := by
  have same : (worker.forget handler).accepting = worker.accepting := rfl
  unfold enqueue
  rw [same]
  split
  · exact forget_send packet
  · rfl

/-- A stop message is sent to the queue whoever handles it. -/
theorem forget_sendStop :
    (worker.forget handler).sendStop = worker.sendStop.forget handler := by
  have same : (worker.forget handler).isOpen = worker.isOpen := rfl
  unfold sendStop
  rw [same]
  split <;> rfl

theorem forget_join :
    (worker.forget handler).join.1 = worker.join.1.forget handler := by
  have same : (worker.forget handler).hasThread = worker.hasThread := rfl
  have sameStage : (worker.forget handler).stage = worker.stage := rfl
  unfold join
  rw [same, sameStage]
  split
  · split <;> rfl
  · rfl

/--
A packet has the same outcome under watch, so the thread goes on or leaves its loop as before.
-/
theorem forget_process
    (watched : worker.handler = handler.logged)
    (packet : Packet) :
    (worker.forget handler).process packet = (worker.process packet).forget handler := by
  rw [process_eq, process_eq, watched, Handler.handle_logged]
  rfl

/-- Taking a message is the same step with the watched handler as with the handler itself. -/
theorem forget_consume
    (watched : worker.handler = handler.logged) :
    (worker.forget handler).consume = worker.consume.forget handler := by
  have taken := worker.consumeCase
  generalize worker.consume = next at taken ⊢
  cases taken with
  | packet packet others running front =>
      rw [@consume_eq_process σ (worker.forget handler) packet others running front]
      exact @forget_process σ handler { worker with queue := others } watched packet
  | stop others running front =>
      have runningToo : (worker.forget handler).stage = .running := running
      have frontToo : (worker.forget handler).queue = .stop :: others := front
      simp only [consume, runningToo, frontToo]
      rfl
  | nothing idle =>
      rcases idle with outside | empty
      · exact consume_of_not_running outside
      · have emptyToo : (worker.forget handler).queue = [] := empty
        unfold consume
        rw [emptyToo]
        split <;> simp_all

/-- Closing is the same step with the watched handler as with the handler itself. -/
theorem forget_close
    (watched : worker.handler = handler.logged) :
    (worker.forget handler).close = worker.close.forget handler := by
  by_cases closing : ∃ faulted, worker.stage = .closing faulted
  · obtain ⟨faulted, closing⟩ := closing
    have closingToo : (worker.forget handler).stage = .closing faulted := closing
    rw [close_eq closing, close_eq closingToo, watched, Handler.finish_logged]
    rfl
  · have outside := not_exists.mp closing
    have outsideToo : ∀ faulted, (worker.forget handler).stage ≠ .closing faulted := outside
    rw [close_of_not_closing outside, close_of_not_closing outsideToo]

end Worker

namespace Traffic

variable {σ : Type} {handler : Handler σ}

/-- What a handler was asked to do so far. -/
def calls (traffic : Traffic (σ × List HandlerCall)) : List HandlerCall :=
  traffic.worker.state.2

/-- The traffic of the worker around the handler that is watched. -/
def forget
    (handler : Handler σ)
    (traffic : Traffic (σ × List HandlerCall)) :
    Traffic σ where
  worker := traffic.worker.forget handler
  producers := traffic.producers
  stopCalls := traffic.stopCalls
  stopping := traffic.stopping
  sent := traffic.sent
  refused := traffic.refused
  handled := traffic.handled

/-- A worker with a handler that is watched, before any call. -/
def watched
    (name : String)
    (handler : Handler σ)
    (initial : σ) :
    Traffic (σ × List HandlerCall) :=
  fresh name handler.logged (initial, [])

/-- A call returns to its producer whoever handles the packet. -/
theorem forget_settle
    (traffic : Traffic (σ × List HandlerCall))
    (offer : Offer)
    (accepted : Bool) :
    (traffic.settle offer accepted).forget handler =
      (traffic.forget handler).settle offer accepted := by
  cases accepted <;> rfl

/-- Every step does the same to the worker of a watched handler. -/
theorem forget_perform
    {traffic : Traffic (σ × List HandlerCall)}
    (watched : traffic.worker.handler = handler.logged)
    (step : TrafficStep) :
    (traffic.perform step).forget handler = (traffic.forget handler).perform step := by
  cases step with
  | start =>
      have started := @Worker.forget_start σ handler traffic.worker
      change (traffic.forget handler).worker.start = _ at started
      rw [perform, perform, started]
      cases traffic.worker.start <;> rfl
  | read producer packet =>
      have sameProducers : (traffic.forget handler).producers = traffic.producers := rfl
      have sameFlag : (traffic.forget handler).worker.accepting = traffic.worker.accepting := rfl
      rw [perform, perform, read, read, sameProducers, sameFlag]
      split
      · rfl
      · dsimp only
        split
        · rfl
        · exact forget_settle traffic _ false
  | send producer =>
      have sameProducers : (traffic.forget handler).producers = traffic.producers := rfl
      rw [perform, perform, send, send, sameProducers]
      split
      · rfl
      · rename_i offer pending
        have sent := @Worker.forget_send σ handler traffic.worker offer.packet
        change (traffic.forget handler).worker.send offer.packet = _ at sent
        rw [sent]
        exact forget_settle _ offer _
  | beginStop =>
      have sameThread : (traffic.forget handler).worker.hasThread = traffic.worker.hasThread := rfl
      rw [perform, perform, beginStop, beginStop, sameThread]
      split <;> rfl
  | finishStop =>
      have sameCalls : (traffic.forget handler).stopping = traffic.stopping := rfl
      have sent := @Worker.forget_sendStop σ handler traffic.worker
      change (traffic.forget handler).worker.sendStop = _ at sent
      rw [perform, perform, finishStop, finishStop, sameCalls, sent]
      split <;> rfl
  | consume =>
      have taken := Worker.forget_consume watched
      change (traffic.forget handler).worker.consume = _ at taken
      rw [perform, perform, taken]
      rfl
  | close =>
      have closed := Worker.forget_close watched
      change (traffic.forget handler).worker.close = _ at closed
      rw [perform, perform, closed]
      rfl
  | join =>
      have joined := @Worker.forget_join σ handler traffic.worker
      change (traffic.forget handler).worker.join.1 = _ at joined
      rw [perform, perform, joined]
      rfl

/-- Watching a handler does not change what happens to its worker. -/
theorem forget_run
    (name : String)
    (handler : Handler σ)
    (initial : σ)
    (steps : List TrafficStep) :
    ((watched name handler initial).run steps).forget handler =
      (fresh name handler initial).run steps := by
  induction steps using List.reverseRecOn with
  | nil => rfl
  | append_singleton steps step inductionHypothesis =>
      have work := (carries_run name handler.logged (initial, []) steps).work
      rw [run_append, run_append, ← inductionHypothesis]
      exact forget_perform work step

end Traffic

end DroneSession
