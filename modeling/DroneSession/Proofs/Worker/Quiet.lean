import Mathlib.Data.List.Induction
import DroneSession.Proofs.Worker.Reports
import DroneSession.Proofs.Worker.Service

namespace DroneSession

/-!
# Workers of resting and quiet handlers

A handler that rests does nothing at its end, so the state of its worker is always what the packets
have made of it.  A quiet handler gives its worker nothing to report and no reason to stop.  So once
such a worker was started, it serves its producers until somebody stops it, whatever packets it is
sent.  A packet that leaves the state of the handler alone might as well not have been in the queue.
-/

namespace Handler

variable {σ : Type} {handler : Handler σ}

/-- No packet ends the loop of a quiet handler. -/
theorem Quiet.goesOn
    (quiet : handler.Quiet)
    (state : σ)
    (packet : Packet) :
    (handler.handle state packet).2.isFatal = false :=
  (Worker.not_fatal_of_quiet quiet "" state packet).1

/-- However many packets it is given, a quiet handler does not fail fatally. -/
theorem Quiet.not_faults
    (quiet : handler.Quiet)
    (initial : σ)
    (packets : List Packet) :
    ¬ handler.Faults initial packets := by
  rintro ⟨earlier, packet, -, fatal⟩
  rw [quiet.goesOn] at fatal
  cases fatal

/-- The packet that halts a handler is among its faults. -/
theorem HaltsAt.faults
    {initial : σ}
    {earlier : List Packet}
    {packet : Packet}
    (halts : handler.HaltsAt initial earlier packet) :
    handler.Faults initial (earlier ++ [packet]) :=
  ⟨earlier, packet, List.prefix_rfl, halts.2⟩

/-- Of a quiet handler there is nothing to report. -/
theorem Quiet.reportsOf_eq_nil
    (quiet : handler.Quiet)
    (name : String)
    (state : σ)
    (packets : List Packet) :
    handler.reportsOf name state packets = [] := by
  induction packets generalizing state with
  | nil =>
      rfl
  | cons packet packets inductionHypothesis =>
      obtain ⟨-, silent⟩ := Worker.not_fatal_of_quiet quiet name state packet
      simp [reportsOf, silent, inductionHypothesis]

/-- A quiet handler is given every packet. -/
theorem Quiet.serve_eq_handleAll
    (quiet : handler.Quiet)
    (state : σ)
    (packets : List Packet) :
    handler.serve state packets = handler.handleAll state packets := by
  induction packets generalizing state with
  | nil =>
      rfl
  | cons packet packets inductionHypothesis =>
      simp only [serve, quiet.goesOn, Bool.false_eq_true, if_false]
      exact inductionHypothesis _

end Handler

namespace Traffic

variable {σ : Type} {name : String} {handler : Handler σ} {initial : σ}

/-- With a handler that rests, the state of a worker is what its packets have made of it. -/
theorem state_run
    (rests : handler.Rests)
    (name : String)
    (initial : σ)
    (steps : List TrafficStep) :
    ((fresh name handler initial).run steps).worker.state =
      handler.handleAll initial ((fresh name handler initial).run steps).handled := by
  have carries := carries_run name handler initial steps
  cases isOpen : ((fresh name handler initial).run steps).worker.isOpen with
  | true =>
      exact carries.open_state isOpen
  | false =>
      rw [carries.closed_state isOpen, rests]

/-- Only taking a message hands a packet over. -/
theorem handled_perform_of_ne_consume
    (traffic : Traffic σ)
    {step : TrafficStep}
    (other : step ≠ .consume) :
    (traffic.perform step).handled = traffic.handled := by
  cases step with
  | consume =>
      exact absurd rfl other
  | start =>
      rw [perform]
      split <;> rfl
  | close =>
      rfl
  | read | send | beginStop | finishStop | join =>
      exact (traffic.silent_perform (by simp)).2.2.2

/-- A worker with a quiet handler reports nothing, and only the stop message makes it leave. -/
theorem Reported.of_quiet
    (quiet : handler.Quiet)
    {handled : List Packet}
    {stage : ThreadStage}
    {notifications : List Notification}
    (reported : Reported name handler initial handled stage notifications) :
    notifications = [] ∧ stage ≠ .closing true ∧ stage ≠ .lost := by
  cases reported with
  | sound inside faultless =>
      refine ⟨quiet.reportsOf_eq_nil name initial handled, ?_⟩
      rcases inside with rfl | rfl | rfl <;> simp
  | halted left earlier packet parts halts =>
      exact absurd halts.faults (quiet.not_faults initial (earlier ++ [packet]))
  | finished closed faultless =>
      have done := quiet.finish (handler.handleAll initial handled)
      constructor
      · simp [done, quiet.reportsOf_eq_nil name initial handled,
          HandlerOutcome.finalReports]
      · simp [closed, Handler.lastStage, done, HandlerOutcome.isPanic]

/-! ## Until somebody stops the worker -/

/-- Once it was started, a worker of a quiet handler serves its producers until it is stopped. -/
theorem attentive_of_quiet
    (quiet : handler.Quiet)
    (name : String)
    (initial : σ)
    (steps : List TrafficStep)
    (unstopped : ((fresh name handler initial).run steps).stopCalls = 0)
    (started : ((fresh name handler initial).run steps).worker.stage ≠ .fresh) :
    ((fresh name handler initial).run steps).worker.stage = .running ∧
      ((fresh name handler initial).run steps).worker.accepting = true ∧
      ((fresh name handler initial).run steps).worker.alive = true :=
  attentive_run name handler initial steps started unstopped (quiet.not_faults initial _)

/-! ## The log of what was handled -/

/-- The traffic without the log of what was handled, which no step reads. -/
def unlogged (traffic : Traffic σ) : Traffic σ :=
  { traffic with handled := [] }

/-- A step does the same to a traffic whose log was cleared. -/
theorem unlogged_perform
    (traffic : Traffic σ)
    (step : TrafficStep) :
    (traffic.unlogged.perform step).unlogged = (traffic.perform step).unlogged := by
  cases step with
  | start =>
      cases started : traffic.worker.start <;> simp [perform, unlogged, started]
  | read producer packet =>
      cases pending : (traffic.producers producer).pending with
      | some offer =>
          simp [perform, read, unlogged, pending]
      | none =>
          cases accepting : traffic.worker.accepting <;>
            simp [perform, read, unlogged, pending, accepting, settle, setProducer]
  | send producer =>
      cases pending : (traffic.producers producer).pending with
      | none =>
          simp [perform, send, unlogged, pending]
      | some offer =>
          cases isOpen : traffic.worker.isOpen <;>
            simp [perform, send, unlogged, pending, Worker.send, isOpen, settle, setProducer]
  | beginStop =>
      cases held : traffic.worker.hasThread <;> simp [perform, beginStop, unlogged, held]
  | finishStop =>
      cases stopping : traffic.stopping <;> simp [perform, finishStop, unlogged, stopping]
  | consume =>
      rfl
  | close =>
      rfl
  | join =>
      rfl

/-- However many steps are taken, they do not depend on what was logged before them. -/
theorem unlogged_run
    (traffic : Traffic σ)
    (steps : List TrafficStep) :
    (traffic.unlogged.run steps).unlogged = (traffic.run steps).unlogged := by
  induction steps using List.reverseRecOn with
  | nil =>
      rfl
  | append_singleton steps step inductionHypothesis =>
      rw [run_append, run_append]
      change ((traffic.unlogged.run steps).perform step).unlogged =
        ((traffic.run steps).perform step).unlogged
      rw [← unlogged_perform, inductionHypothesis, unlogged_perform]

/-- A packet that leaves the state of a quiet handler alone leaves no trace in the run. -/
theorem run_consume_of_unchanged
    (quiet : handler.Quiet)
    {traffic : Traffic σ}
    {packet : Packet}
    {others : List Message}
    (work : traffic.worker.handler = handler)
    (running : traffic.worker.stage = .running)
    (front : traffic.worker.queue = .packet packet :: others)
    (unchanged : (handler.handle traffic.worker.state packet).1 = traffic.worker.state)
    (later : List TrafficStep) :
    ((traffic.perform .consume).run later).unlogged =
      ({ traffic with worker := { traffic.worker with queue := others } }.run later).unlogged := by
  have taken : (traffic.perform .consume).unlogged =
      { traffic with worker := { traffic.worker with queue := others } }.unlogged := by
    simp [perform, unlogged, Worker.consume_packet quiet work running front, unchanged]
  rw [← unlogged_run, taken, unlogged_run]

end Traffic

end DroneSession
