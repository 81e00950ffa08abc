import DroneSession.Proofs.Worker.Step

namespace DroneSession

/-!
# The traffic of a worker

Any number of producers, callers that stop the worker, its owner and its thread take turns in any
order.  A call of a producer has two steps, reading the accepting flag and sending, and so has a
call that stops the worker, clearing the flag and sending the stop message; other steps can come
between them.  The traffic keeps a log of what was sent, refused and handled.
-/

/-- One call of a producer: who made it, how many calls it had made before, and the packet. -/
structure Offer where
  producer : Nat
  turn : Nat
  packet : Packet
  deriving DecidableEq

/-- What tells a call from all others. -/
def Offer.call (offer : Offer) : Nat × Nat :=
  (offer.producer, offer.turn)

/-- The number of calls that a producer has made, and what it has yet to send. -/
structure Producer where
  calls : Nat
  pending : Option Offer

/-- The number of calls that have returned. -/
def Producer.returned (producer : Producer) : Nat :=
  match producer.pending with
  | none => producer.calls
  | some offer => offer.turn

/-- A worker, the calls that others have made of it, and the log of what became of them. -/
structure Traffic (σ : Type) where
  worker : Worker σ
  producers : Nat → Producer
  /-- The number of calls that stop the worker and were made while it had a thread. -/
  stopCalls : Nat
  /-- The number of those that have yet to send their message. -/
  stopping : Nat
  /-- The calls that returned true, in the order in which they reached the queue. -/
  sent : List Offer
  /-- The calls that returned false. -/
  refused : List Offer
  /-- The packets that the handler was given. -/
  handled : List Packet

/-- One step of somebody. -/
inductive TrafficStep where
  | start
  /-- A producer calls and reads the accepting flag. -/
  | read (producer : Nat) (packet : Packet)
  /-- A producer that has found the flag set sends its packet. -/
  | send (producer : Nat)
  /-- A caller clears the accepting flag. -/
  | beginStop
  /-- A caller that has cleared the flag sends the stop message. -/
  | finishStop
  /-- The thread takes a message. -/
  | consume
  /-- The thread closes the queue and exits. -/
  | close
  /-- The owner takes the handler back if the thread has exited. -/
  | join
  deriving DecidableEq

namespace Traffic

variable {σ : Type}

/-- A worker that was not started, before any call. -/
def fresh
    (name : String)
    (handler : Handler σ)
    (initial : σ) :
    Traffic σ where
  worker := .create name handler initial
  producers := fun _ => { calls := 0, pending := none }
  stopCalls := 0
  stopping := 0
  sent := []
  refused := []
  handled := []

/-- Put another producer in the place of one. -/
def setProducer
    (traffic : Traffic σ)
    (producer : Nat)
    (next : Producer) :
    Traffic σ :=
  { traffic with
    producers := fun other => if other = producer then next else traffic.producers other }

/-- A call returns. -/
def settle
    (traffic : Traffic σ)
    (offer : Offer)
    (accepted : Bool) :
    Traffic σ :=
  let returned := traffic.setProducer offer.producer { calls := offer.turn + 1, pending := none }
  if accepted then
    { returned with sent := traffic.sent ++ [offer] }
  else
    { returned with refused := traffic.refused ++ [offer] }

/-- The first step of a call, which ends it if the flag is cleared. -/
def read
    (traffic : Traffic σ)
    (producer : Nat)
    (packet : Packet) :
    Traffic σ :=
  let caller := traffic.producers producer
  match caller.pending with
  | some _ => traffic
  | none =>
      let offer : Offer := ⟨producer, caller.calls, packet⟩
      if traffic.worker.accepting then
        traffic.setProducer producer { calls := caller.calls + 1, pending := some offer }
      else
        traffic.settle offer false

/-- The second step of a call. -/
def send
    (traffic : Traffic σ)
    (producer : Nat) :
    Traffic σ :=
  match (traffic.producers producer).pending with
  | none => traffic
  | some offer =>
      let (worker, accepted) := traffic.worker.send offer.packet
      { traffic with worker := worker }.settle offer accepted

/-- The first step of a call that stops the worker. -/
def beginStop (traffic : Traffic σ) : Traffic σ :=
  if traffic.worker.hasThread then
    { traffic with
      worker := traffic.worker.refuse
      stopCalls := traffic.stopCalls + 1
      stopping := traffic.stopping + 1 }
  else
    traffic

/-- The second step of a call that stops the worker. -/
def finishStop (traffic : Traffic σ) : Traffic σ :=
  match traffic.stopping with
  | 0 => traffic
  | stopping + 1 => { traffic with worker := traffic.worker.sendStop, stopping := stopping }

/-- The traffic after one step; a step that nobody is ready for changes nothing. -/
def perform
    (traffic : Traffic σ) :
    TrafficStep → Traffic σ
  | .start =>
      match traffic.worker.start with
      | .ok worker => { traffic with worker := worker }
      | .error _ => traffic
  | .read producer packet => traffic.read producer packet
  | .send producer => traffic.send producer
  | .beginStop => traffic.beginStop
  | .finishStop => traffic.finishStop
  | .consume =>
      { traffic with
        worker := traffic.worker.consume
        handled := traffic.handled ++ traffic.worker.nextPacket?.toList }
  | .close => { traffic with worker := traffic.worker.close }
  | .join => { traffic with worker := traffic.worker.join.1 }

/-- The traffic after some steps. -/
def run
    (traffic : Traffic σ)
    (steps : List TrafficStep) :
    Traffic σ :=
  steps.foldl perform traffic

theorem run_append
    (traffic : Traffic σ)
    (first second : List TrafficStep) :
    traffic.run (first ++ second) = (traffic.run first).run second :=
  List.foldl_append

/-- What holds at first and survives every step holds after every run. -/
theorem run_induction
    {property : Traffic σ → Prop}
    (preserved : ∀ traffic step, property traffic → property (traffic.perform step))
    {traffic : Traffic σ}
    (initially : property traffic)
    (steps : List TrafficStep) :
    property (traffic.run steps) := by
  induction steps generalizing traffic with
  | nil => exact initially
  | cons step steps inductionHypothesis =>
      exact inductionHypothesis (preserved traffic step initially)

/-! ## Undisturbed calls -/

/-- The two steps of a call, with nothing between them, are one attempt to enqueue. -/
theorem worker_read_send
    {traffic : Traffic σ}
    {producer : Nat}
    (free : (traffic.producers producer).pending = none)
    (packet : Packet) :
    ((traffic.read producer packet).send producer).worker =
      (traffic.worker.enqueue packet).1 := by
  cases accepting : traffic.worker.accepting with
  | false => simp [read, send, free, accepting, settle, setProducer, Worker.enqueue]
  | true =>
      cases isOpen : traffic.worker.isOpen <;>
        simp [read, send, free, accepting, settle, setProducer, Worker.enqueue, Worker.send, isOpen]

/-- The two steps of a call that stops the worker, with nothing between them, stop it. -/
theorem worker_beginStop_finishStop
    {traffic : Traffic σ}
    (none : traffic.stopping = 0) :
    traffic.beginStop.finishStop.worker = traffic.worker.stop := by
  cases held : traffic.worker.hasThread <;>
    simp [beginStop, finishStop, Worker.stop, held, none]

/-! ## What a step does to the queue -/

/-- Everything that a step can do to the queue, the thread and the log of what passes through. -/
inductive ChannelCase (traffic : Traffic σ) : Traffic σ → Prop where
  /-- Nothing, except that the thread may begin its loop and its owner may join it at its end. -/
  | still
      (next : Traffic σ)
      (work : next.worker.handler = traffic.worker.handler)
      (state : next.worker.state = traffic.worker.state)
      (queue : next.worker.queue = traffic.worker.queue)
      (hasLeft : next.worker.hasLeft = traffic.worker.hasLeft)
      (isOpen : next.worker.isOpen = traffic.worker.isOpen)
      (joined : next.worker.joined = true →
        traffic.worker.joined = true ∨ traffic.worker.isOpen = false)
      (sent : next.sent = traffic.sent)
      (handled : next.handled = traffic.handled) :
      ChannelCase traffic next
  | packet
      (offer : Offer)
      (next : Traffic σ)
      (isOpen : traffic.worker.isOpen = true)
      (worker : next.worker =
        { traffic.worker with queue := traffic.worker.queue ++ [.packet offer.packet] })
      (sent : next.sent = traffic.sent ++ [offer])
      (handled : next.handled = traffic.handled) :
      ChannelCase traffic next
  | stop
      (next : Traffic σ)
      (stopping : traffic.stopping ≠ 0)
      (worker : next.worker = { traffic.worker with queue := traffic.worker.queue ++ [.stop] })
      (sent : next.sent = traffic.sent)
      (handled : next.handled = traffic.handled) :
      ChannelCase traffic next
  | handsPacket
      (packet : Packet)
      (others : List Message)
      (running : traffic.worker.stage = .running)
      (front : traffic.worker.queue = .packet packet :: others) :
      ChannelCase traffic
        { traffic with
          worker := { traffic.worker with queue := others }.process packet
          handled := traffic.handled ++ [packet] }
  | takesStop
      (others : List Message)
      (running : traffic.worker.stage = .running)
      (front : traffic.worker.queue = .stop :: others) :
      ChannelCase traffic
        { traffic with
          worker := { traffic.worker with queue := others, stage := .closing false } }
  | closes
      (faulted : Bool)
      (closing : traffic.worker.stage = .closing faulted) :
      ChannelCase traffic { traffic with worker := traffic.worker.close }

/-- Every step is one of the cases of what a step can do to the queue. -/
theorem channelCase
    (traffic : Traffic σ)
    (step : TrafficStep) :
    ChannelCase traffic (traffic.perform step) := by
  cases step with
  | start =>
      rw [perform, Worker.start]
      by_cases new : traffic.worker.stage = .fresh
      · rw [if_pos new]
        refine .still _ rfl rfl rfl ?_ ?_ .inl rfl rfl
        · simp only [Worker.hasLeft, new]
        · simp only [Worker.isOpen, new]
      · rw [if_neg new]
        exact .still _ rfl rfl rfl rfl rfl .inl rfl rfl
  | read producer packet =>
      rw [perform, read]
      split
      · exact .still _ rfl rfl rfl rfl rfl .inl rfl rfl
      · simp only
        split <;> exact .still _ rfl rfl rfl rfl rfl .inl rfl rfl
  | send producer =>
      rw [perform, send]
      split
      · exact .still _ rfl rfl rfl rfl rfl .inl rfl rfl
      · rename_i offer pending
        cases isOpen : traffic.worker.isOpen with
        | false =>
            simp only [Worker.send, isOpen, Bool.false_eq_true, if_false]
            exact .still _ rfl rfl rfl rfl rfl .inl rfl rfl
        | true =>
            simp only [Worker.send, isOpen, if_true]
            exact .packet offer _ isOpen rfl rfl rfl
  | beginStop =>
      rw [perform, beginStop]
      split <;> exact .still _ rfl rfl rfl rfl rfl .inl rfl rfl
  | finishStop =>
      rw [perform, finishStop]
      split
      · exact .still _ rfl rfl rfl rfl rfl .inl rfl rfl
      · rename_i stopping inside
        have called : traffic.stopping ≠ 0 := by
          rw [inside]
          exact Nat.succ_ne_zero stopping
        cases isOpen : traffic.worker.isOpen with
        | false =>
            simp only [Worker.sendStop, isOpen, Bool.false_eq_true, if_false]
            exact .still _ rfl rfl rfl rfl rfl .inl rfl rfl
        | true =>
            simp only [Worker.sendStop, isOpen, if_true]
            exact .stop _ called rfl rfl rfl
  | consume =>
      rw [perform]
      have taken := traffic.worker.consumeCase
      generalize traffic.worker.consume = worker at taken ⊢
      cases taken with
      | packet packet others running front =>
          have next : traffic.worker.nextPacket? = some packet := by
            simp only [Worker.nextPacket?, running, front]
          rw [next]
          exact .handsPacket packet others running front
      | stop others running front =>
          have next : traffic.worker.nextPacket? = none := by
            simp only [Worker.nextPacket?, running, front]
          rw [next, Option.toList_none, List.append_nil]
          exact .takesStop others running front
      | nothing idle =>
          have next : traffic.worker.nextPacket? = none := by
            unfold Worker.nextPacket?
            split
            · rename_i packet others running front
              rcases idle with outside | empty
              · exact absurd running outside
              · rw [empty] at front
                cases front
            · rfl
          rw [next, Option.toList_none, List.append_nil]
          exact .still _ rfl rfl rfl rfl rfl .inl rfl rfl
  | close =>
      rw [perform]
      by_cases closing : ∃ faulted, traffic.worker.stage = .closing faulted
      · obtain ⟨faulted, closing⟩ := closing
        exact .closes faulted closing
      · rw [Worker.close_of_not_closing (not_exists.mp closing)]
        exact .still _ rfl rfl rfl rfl rfl .inl rfl rfl
  | join =>
      rw [perform, Worker.join]
      split
      · split
        · rename_i exited
          refine .still _ rfl rfl rfl rfl rfl (fun _ => .inr ?_) rfl rfl
          rw [Worker.isOpen, exited]
        · rename_i lost
          refine .still _ rfl rfl rfl rfl rfl (fun _ => .inr ?_) rfl rfl
          rw [Worker.isOpen, lost]
        · exact .still _ rfl rfl rfl rfl rfl .inl rfl rfl
      · exact .still _ rfl rfl rfl rfl rfl .inl rfl rfl

/-! ## What most steps leave alone -/

/-- What nobody but the thread and the callers that start or stop it can change. -/
structure Undisturbed (traffic next : Traffic σ) : Prop where
  name : next.worker.name = traffic.worker.name
  stage : next.worker.stage = traffic.worker.stage
  accepting : next.worker.accepting = traffic.worker.accepting
  alive : next.worker.alive = traffic.worker.alive
  notifications : next.worker.notifications = traffic.worker.notifications
  stopCalls : next.stopCalls = traffic.stopCalls
  handled : next.handled = traffic.handled

/-- Only a start, a stop and the thread change the stage of a thread and what it has handed over. -/
theorem undisturbed_perform
    (traffic : Traffic σ)
    {step : TrafficStep}
    (other : step ≠ .start ∧ step ≠ .beginStop ∧ step ≠ .consume ∧ step ≠ .close) :
    traffic.Undisturbed (traffic.perform step) := by
  cases step with
  | start => exact absurd rfl other.1
  | beginStop => exact absurd rfl other.2.1
  | consume => exact absurd rfl other.2.2.1
  | close => exact absurd rfl other.2.2.2
  | read producer packet =>
      rw [perform, read]
      split
      · constructor <;> rfl
      · dsimp only
        split <;> constructor <;> rfl
  | send producer =>
      rw [perform, send]
      split
      · constructor <;> rfl
      · cases isOpen : traffic.worker.isOpen <;>
          constructor <;> simp [Worker.send, isOpen, settle, setProducer]
  | finishStop =>
      rw [perform, finishStop]
      split
      · constructor <;> rfl
      · unfold Worker.sendStop
        split <;> constructor <;> rfl
  | join =>
      rw [perform, Worker.join]
      split
      · split <;> constructor <;> rfl
      · constructor <;> rfl

end Traffic

end DroneSession
