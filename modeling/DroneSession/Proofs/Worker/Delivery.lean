import Mathlib.Data.List.Induction
import Mathlib.Data.List.Nodup
import DroneSession.Proofs.Worker.Calls

namespace DroneSession

/-!
# Delivery to a handler

Whatever the order of steps and whatever the handler does, the packets that it was given are those
that were sent first, each once and in the order of the queue.  A packet that was refused is not
among them.  If nothing fatal happens, a thread that has left its loop has handed over everything
that was sent before anybody stopped the worker.
-/

/-- The packet of a message. -/
def Message.packet? : Message → Option Packet
  | .packet content => some content
  | .stop => none

/-- The packets in a queue. -/
def queuedPackets (queue : List Message) : List Packet :=
  queue.filterMap Message.packet?

/-- The packets in a queue that come before the first stop message. -/
def packetsBeforeStop : List Message → List Packet
  | [] => []
  | .stop :: _ => []
  | .packet packet :: queue => packet :: packetsBeforeStop queue

/-- Without a stop message all packets of a queue come before one. -/
theorem packetsBeforeStop_of_not_mem
    {queue : List Message}
    (unstopped : .stop ∉ queue) :
    packetsBeforeStop queue = queuedPackets queue := by
  induction queue with
  | nil => rfl
  | cons message queue inductionHypothesis =>
      rw [List.mem_cons, not_or] at unstopped
      cases message with
      | stop => exact absurd rfl unstopped.1
      | packet packet =>
          rw [packetsBeforeStop, inductionHypothesis unstopped.2]
          rfl

/-- A message at the end takes no packet away from in front of the stop message. -/
theorem length_packetsBeforeStop_le
    (queue : List Message)
    (message : Message) :
    (packetsBeforeStop queue).length ≤ (packetsBeforeStop (queue ++ [message])).length := by
  induction queue with
  | nil => exact Nat.zero_le _
  | cons first queue inductionHypothesis =>
      cases first with
      | stop => exact Nat.le_refl 0
      | packet packet => exact Nat.succ_le_succ inductionHypothesis

namespace Handler

variable {σ : Type}

/-- A packet among some packets makes the handler fail fatally. -/
def Faults
    (handler : Handler σ)
    (initial : σ)
    (packets : List Packet) :
    Prop :=
  ∃ earlier packet,
    earlier ++ [packet] <+: packets ∧
    (handler.handle (handler.handleAll initial earlier) packet).2.isFatal = true

/-- What fails among some packets still fails when others follow. -/
theorem Faults.mono
    {handler : Handler σ}
    {initial : σ}
    {first second : List Packet}
    (faults : handler.Faults initial first)
    (longer : first <+: second) :
    handler.Faults initial second := by
  obtain ⟨earlier, packet, inside, fatal⟩ := faults
  exact ⟨earlier, packet, inside.trans longer, fatal⟩

end Handler

namespace Traffic

variable {σ : Type} {handler : Handler σ} {initial : σ}

/-- The calls whose packets the handler was given. -/
def delivered (traffic : Traffic σ) : List Offer :=
  traffic.sent.take traffic.handled.length

/-! ## From the queue to the handler -/

/-- What was sent is what was handled and, while the thread is in its loop, what is queued. -/
structure Carries
    (handler : Handler σ)
    (initial : σ)
    (traffic : Traffic σ) :
    Prop where
  work : traffic.worker.handler = handler
  conserved : traffic.worker.hasLeft = false →
    traffic.handled ++ queuedPackets traffic.worker.queue = traffic.sent.map Offer.packet
  first : traffic.handled <+: traffic.sent.map Offer.packet
  open_state : traffic.worker.isOpen = true →
    traffic.worker.state = handler.handleAll initial traffic.handled
  closed_state : traffic.worker.isOpen = false →
    traffic.worker.state = (handler.finish (handler.handleAll initial traffic.handled)).1

theorem carries_fresh
    (name : String)
    (handler : Handler σ)
    (initial : σ) :
    (fresh name handler initial).Carries handler initial where
  work := rfl
  conserved := fun _ => rfl
  first := List.nil_prefix
  open_state := fun _ => rfl
  closed_state := by
    intro closed
    cases closed

/-- Every step keeps in the queue, or hands over, what was sent. -/
theorem Carries.perform
    {traffic : Traffic σ}
    (carries : traffic.Carries handler initial)
    (step : TrafficStep) :
    (traffic.perform step).Carries handler initial := by
  have channel := traffic.channelCase step
  generalize traffic.perform step = next at channel ⊢
  cases channel with
  | still next work state queue hasLeft isOpen joined sent handled =>
      constructor
      · rw [work]
        exact carries.work
      · rw [hasLeft, handled, queue, sent]
        exact carries.conserved
      · rw [handled, sent]
        exact carries.first
      · rw [isOpen, state, handled]
        exact carries.open_state
      · rw [isOpen, state, handled]
        exact carries.closed_state
  | packet offer next isOpen worker sent handled =>
      constructor
      · rw [worker]
        exact carries.work
      · intro inside
        rw [worker] at inside ⊢
        have before := carries.conserved inside
        rw [handled, sent, List.map_append, ← before, queuedPackets, List.filterMap_append]
        exact (List.append_assoc _ _ _).symm
      · rw [handled, sent, List.map_append]
        exact carries.first.trans (List.prefix_append _ _)
      · rw [worker, handled]
        exact carries.open_state
      · rw [worker, handled]
        exact carries.closed_state
  | stop next stopping worker sent handled =>
      constructor
      · rw [worker]
        exact carries.work
      · intro inside
        rw [worker] at inside ⊢
        have before := carries.conserved inside
        rw [handled, sent, ← before, queuedPackets, List.filterMap_append]
        exact congrArg (traffic.handled ++ ·) (List.append_nil _)
      · rw [handled, sent]
        exact carries.first
      · rw [worker, handled]
        exact carries.open_state
      · rw [worker, handled]
        exact carries.closed_state
  | handsPacket packet others running front =>
      have inside : traffic.worker.hasLeft = false := by
        rw [Worker.hasLeft, running]
      have before := carries.conserved inside
      rw [front] at before
      have moved : traffic.handled ++ [packet] ++ queuedPackets others =
          traffic.sent.map Offer.packet := by
        rw [← before, List.append_assoc]
        rfl
      have isOpen : traffic.worker.isOpen = true := by
        rw [Worker.isOpen, running]
      obtain ⟨stillOpen, -⟩ :=
        Worker.process_of_running { traffic.worker with queue := others } running packet
      constructor
      · rw [Worker.process_eq]
        exact carries.work
      · intro _
        rw [Worker.process_eq]
        exact moved
      · rw [← moved]
        exact List.prefix_append _ _
      · intro _
        rw [Worker.process_eq, Handler.handleAll_concat, ← carries.open_state isOpen, carries.work]
      · intro closed
        rw [stillOpen] at closed
        cases closed
  | takesStop others running front =>
      have isOpen : traffic.worker.isOpen = true := by
        rw [Worker.isOpen, running]
      constructor
      · exact carries.work
      · intro inside
        cases inside
      · exact carries.first
      · intro _
        exact carries.open_state isOpen
      · intro closed
        cases closed
  | closes faulted closing =>
      have isOpen : traffic.worker.isOpen = true := by
        rw [Worker.isOpen, closing]
      obtain ⟨left, closed⟩ := Worker.closed_of_closing closing
      constructor
      · rw [Worker.close_eq closing]
        exact carries.work
      · intro inside
        rw [left] at inside
        cases inside
      · exact carries.first
      · intro isOpen
        rw [closed] at isOpen
        cases isOpen
      · intro _
        rw [Worker.close_eq closing]
        change (traffic.worker.handler.finish traffic.worker.state).1 = _
        rw [carries.work, carries.open_state isOpen]

/-- Whatever the order of steps, what was sent is handled or still on its way. -/
theorem carries_run
    (name : String)
    (handler : Handler σ)
    (initial : σ)
    (steps : List TrafficStep) :
    ((fresh name handler initial).run steps).Carries handler initial :=
  run_induction (fun _ step carries => carries.perform step) (carries_fresh name handler initial)
    steps

/-- What was handed over is the first part of what was sent. -/
theorem Carries.handled_eq
    {traffic : Traffic σ}
    (carries : traffic.Carries handler initial) :
    traffic.handled = traffic.delivered.map Offer.packet := by
  rw [delivered, List.map_take]
  exact List.prefix_iff_eq_take.mp carries.first

/-! ## Stopping and joining -/

/-- Nothing but a call that stops the worker or a fatal failure ends the loop of the thread. -/
structure Stoppable
    (handler : Handler σ)
    (initial : σ)
    (traffic : Traffic σ) :
    Prop where
  counted : traffic.stopping ≤ traffic.stopCalls
  unstopped : traffic.stopCalls = 0 → .stop ∉ traffic.worker.queue
  faulted : traffic.stopCalls = 0 → traffic.worker.hasLeft = true →
    handler.Faults initial traffic.handled
  joined : traffic.worker.joined = true → traffic.worker.isOpen = false

theorem stoppable_fresh
    (name : String)
    (handler : Handler σ)
    (initial : σ) :
    (fresh name handler initial).Stoppable handler initial where
  counted := Nat.le_refl 0
  unstopped := fun _ => List.not_mem_nil
  faulted := by
    intro _ left
    cases left
  joined := by
    intro joined
    cases joined

/-- Everything that a step can do to the count of the calls that stop the worker. -/
inductive StopCase (traffic next : Traffic σ) : Prop where
  | still
      (stopCalls : next.stopCalls = traffic.stopCalls)
      (stopping : next.stopping = traffic.stopping)
  | begins
      (stopCalls : next.stopCalls = traffic.stopCalls + 1)
      (stopping : next.stopping = traffic.stopping + 1)
  | finishes
      (stopCalls : next.stopCalls = traffic.stopCalls)
      (stopping : next.stopping + 1 = traffic.stopping)

/-- Every step leaves the count of the stop calls alone, raises it, or sends a stop message. -/
theorem stopCase
    (traffic : Traffic σ)
    (step : TrafficStep) :
    StopCase traffic (traffic.perform step) := by
  cases step with
  | start =>
      rw [perform]
      split <;> exact .still rfl rfl
  | read producer packet =>
      rw [perform, read]
      split
      · exact .still rfl rfl
      · dsimp only
        split <;> exact .still rfl rfl
  | send producer =>
      rw [perform, send]
      split
      · exact .still rfl rfl
      · dsimp only
        cases (traffic.worker.send _).2 <;> exact .still rfl rfl
  | beginStop =>
      rw [perform, beginStop]
      split
      · exact .begins rfl rfl
      · exact .still rfl rfl
  | finishStop =>
      rw [perform, finishStop]
      split
      · exact .still rfl rfl
      · rename_i stopping inside
        exact .finishes rfl inside.symm
  | consume => exact .still rfl rfl
  | close => exact .still rfl rfl
  | join => exact .still rfl rfl

/-- A fatal outcome is a fault among the packets that were handed over. -/
theorem Carries.faults
    {traffic : Traffic σ}
    (carries : traffic.Carries handler initial)
    (running : traffic.worker.stage = .running)
    {packet : Packet}
    (fatal : (traffic.worker.handler.handle traffic.worker.state packet).2.isFatal = true) :
    handler.Faults initial (traffic.handled ++ [packet]) := by
  have isOpen : traffic.worker.isOpen = true := by
    rw [Worker.isOpen, running]
  rw [carries.work, carries.open_state isOpen] at fatal
  exact ⟨traffic.handled, packet, List.prefix_rfl, fatal⟩

/-- No step but a stop call or a fatal failure lets the loop end. -/
theorem Stoppable.perform
    {traffic : Traffic σ}
    (stoppable : traffic.Stoppable handler initial)
    (carries : traffic.Carries handler initial)
    (step : TrafficStep) :
    (traffic.perform step).Stoppable handler initial := by
  have channel := traffic.channelCase step
  have calls := traffic.stopCase step
  generalize traffic.perform step = next at channel calls ⊢
  have before : next.stopCalls = 0 → traffic.stopCalls = 0 := by
    cases calls <;> omega
  refine ⟨?_, ?_, ?_, ?_⟩
  · have counted := stoppable.counted
    cases calls <;> omega
  · intro none
    have unstopped := stoppable.unstopped (before none)
    cases channel with
    | still next work state queue hasLeft isOpen joined sent handled => rwa [queue]
    | packet offer next isOpen worker sent handled =>
        rw [worker]
        simpa using unstopped
    | stop next stopping worker sent handled =>
        have called := stoppable.counted
        rw [before none] at called
        exact absurd (Nat.le_zero.mp called) stopping
    | handsPacket packet others running front =>
        rw [Worker.process_eq]
        rw [front] at unstopped
        exact fun member => unstopped (List.mem_cons_of_mem _ member)
    | takesStop others running front =>
        rw [front] at unstopped
        exact absurd List.mem_cons_self unstopped
    | closes faulted closing =>
        rw [Worker.close_eq closing]
        exact List.not_mem_nil
  · intro none left
    have faulted := stoppable.faulted (before none)
    cases channel with
    | still next work state queue hasLeft isOpen joined sent handled =>
        rw [handled]
        exact faulted (hasLeft.symm.trans left)
    | packet offer next isOpen worker sent handled =>
        rw [worker] at left
        rw [handled]
        exact faulted left
    | stop next stopping worker sent handled =>
        rw [worker] at left
        rw [handled]
        exact faulted left
    | handsPacket packet others running front =>
        obtain ⟨-, fatal⟩ :=
          Worker.process_of_running { traffic.worker with queue := others } running packet
        exact carries.faults running (fatal.symm.trans left)
    | takesStop others running front =>
        have unstopped := stoppable.unstopped (before none)
        rw [front] at unstopped
        exact absurd List.mem_cons_self unstopped
    | closes isFault closing =>
        refine faulted ?_
        rw [Worker.hasLeft, closing]
  · cases channel with
    | still next work state queue hasLeft isOpen joined sent handled =>
        intro isJoined
        rw [isOpen]
        rcases joined isJoined with earlier | closed
        · exact stoppable.joined earlier
        · exact closed
    | packet offer next isOpen worker sent handled =>
        rw [worker]
        exact stoppable.joined
    | stop next stopping worker sent handled =>
        rw [worker]
        exact stoppable.joined
    | handsPacket packet others running front =>
        intro isJoined
        rw [Worker.process_eq] at isJoined
        have closed := stoppable.joined isJoined
        rw [Worker.isOpen, running] at closed
        cases closed
    | takesStop others running front =>
        intro isJoined
        have closed := stoppable.joined isJoined
        rw [Worker.isOpen, running] at closed
        cases closed
    | closes faulted closing =>
        intro _
        exact (Worker.closed_of_closing closing).2

theorem Stoppable.run
    {traffic : Traffic σ}
    (stoppable : traffic.Stoppable handler initial)
    (carries : traffic.Carries handler initial)
    (steps : List TrafficStep) :
    (traffic.run steps).Stoppable handler initial := by
  induction steps generalizing traffic with
  | nil => exact stoppable
  | cons step steps inductionHypothesis =>
      exact inductionHypothesis (stoppable.perform carries step) (carries.perform step)

/-- Whatever the order of steps, only a stop call or a fatal failure ends the loop. -/
theorem stoppable_run
    (name : String)
    (handler : Handler σ)
    (initial : σ)
    (steps : List TrafficStep) :
    ((fresh name handler initial).run steps).Stoppable handler initial :=
  (stoppable_fresh name handler initial).run (carries_fresh name handler initial) steps

/-! ## Serving -/

/-- Every step but a start leaves it open whether the worker was started. -/
theorem stage_perform_eq_fresh_iff
    (traffic : Traffic σ)
    (step : TrafficStep) :
    (traffic.perform step).worker.stage = .fresh ↔
      traffic.worker.stage = .fresh ∧ step ≠ .start := by
  by_cases other : step ≠ .start ∧ step ≠ .beginStop ∧ step ≠ .consume ∧ step ≠ .close
  · rw [(traffic.undisturbed_perform other).stage, and_iff_left other.1]
  · cases step with
    | start =>
        rw [perform, Worker.start]
        by_cases new : traffic.worker.stage = .fresh
        · simp [if_pos new]
        · simp [new]
    | beginStop =>
        rw [perform, beginStop]
        split <;> simp [Worker.refuse]
    | consume =>
        have taken := traffic.worker.consumeCase
        simp only [perform, ne_eq, reduceCtorEq, not_false_eq_true, and_true]
        generalize traffic.worker.consume = next at taken ⊢
        cases taken with
        | packet packet others running front =>
            rw [Worker.process_eq]
            cases (traffic.worker.handler.handle traffic.worker.state packet).2.isFatal <;>
              simp [running]
        | stop others running front => simp [running]
        | nothing idle => rfl
    | close =>
        simp only [perform, ne_eq, reduceCtorEq, not_false_eq_true, and_true]
        by_cases closing : ∃ faulted, traffic.worker.stage = .closing faulted
        · obtain ⟨faulted, closing⟩ := closing
          rw [Worker.close_eq closing]
          cases (traffic.worker.handler.finish traffic.worker.state).2.isPanic <;> simp [closing]
        · rw [Worker.close_of_not_closing (not_exists.mp closing)]
    | read producer packet => simp at other
    | send producer => simp at other
    | finishStop => simp at other
    | join => simp at other

/-- A worker is new until its first start. -/
theorem stage_run_eq_fresh_iff
    (traffic : Traffic σ)
    (steps : List TrafficStep) :
    (traffic.run steps).worker.stage = .fresh ↔
      traffic.worker.stage = .fresh ∧ .start ∉ steps := by
  induction steps generalizing traffic with
  | nil => simp [run]
  | cons step steps inductionHypothesis =>
      refine (inductionHypothesis (traffic.perform step)).trans ?_
      rw [stage_perform_eq_fresh_iff, List.mem_cons, not_or, and_assoc, ne_comm]

/-- Once it was started, a worker serves until somebody stops it or a packet ends it. -/
def Attentive
    (handler : Handler σ)
    (initial : σ)
    (traffic : Traffic σ) :
    Prop :=
  traffic.worker.stage ≠ .fresh →
  traffic.stopCalls = 0 →
  ¬ handler.Faults initial traffic.handled →
  traffic.worker.stage = .running ∧
    traffic.worker.accepting = true ∧
    traffic.worker.alive = true

/-- No step but a stop call or a fatal packet makes a worker that was started stop serving. -/
theorem Attentive.perform
    {traffic : Traffic σ}
    (carries : traffic.Carries handler initial)
    (stoppable : traffic.Stoppable handler initial)
    (attentive : traffic.Attentive handler initial)
    (step : TrafficStep) :
    (traffic.perform step).Attentive handler initial := by
  by_cases other : step ≠ .start ∧ step ≠ .beginStop ∧ step ≠ .consume ∧ step ≠ .close
  · have undisturbed := traffic.undisturbed_perform other
    rw [Attentive, undisturbed.stage, undisturbed.accepting, undisturbed.alive,
      undisturbed.stopCalls, undisturbed.handled]
    exact attentive
  · cases step with
    | start =>
        rw [Traffic.perform, Worker.start]
        by_cases new : traffic.worker.stage = .fresh
        · rw [if_pos new]
          intro _ _ _
          exact ⟨rfl, rfl, rfl⟩
        · rw [if_neg new]
          exact attentive
    | beginStop =>
        rw [Traffic.perform, beginStop]
        split
        · intro _ unstopped
          cases unstopped
        · exact attentive
    | consume =>
        intro started unstopped faultless
        change traffic.stopCalls = 0 at unstopped
        change ¬ handler.Faults initial
          (traffic.handled ++ traffic.worker.nextPacket?.toList) at faultless
        have earlier : ¬ handler.Faults initial traffic.handled :=
          fun faults => faultless (faults.mono (List.prefix_append _ _))
        change traffic.worker.consume.stage ≠ .fresh at started
        change traffic.worker.consume.stage = .running ∧
          traffic.worker.consume.accepting = true ∧ traffic.worker.consume.alive = true
        have taken := traffic.worker.consumeCase
        generalize traffic.worker.consume = next at taken started ⊢
        cases taken with
        | packet packet others running front =>
            obtain ⟨-, accepting, alive⟩ := attentive (by simp [running]) unstopped earlier
            have next : traffic.worker.nextPacket? = some packet := by
              simp only [Worker.nextPacket?, running, front]
            rw [next] at faultless
            have goesOn :
                (traffic.worker.handler.handle traffic.worker.state packet).2.isFatal = false :=
              Bool.eq_false_iff.mpr fun fatal => faultless (carries.faults running fatal)
            simp [Worker.process_eq, goesOn, running, accepting, alive]
        | stop others running front =>
            -- Nobody has stopped the worker, so no stop message can have been in the queue.
            exact absurd (by simp [front]) (stoppable.unstopped unstopped)
        | nothing idle => exact attentive started unstopped earlier
    | close =>
        by_cases closing : ∃ faulted, traffic.worker.stage = .closing faulted
        · obtain ⟨faulted, closing⟩ := closing
          intro _ unstopped faultless
          have serving := (attentive (by simp [closing]) unstopped faultless).1
          rw [closing] at serving
          cases serving
        · rw [Traffic.perform, Worker.close_of_not_closing (not_exists.mp closing)]
          exact attentive
    | read producer packet => simp at other
    | send producer => simp at other
    | finishStop => simp at other
    | join => simp at other

/-- Whatever the order of steps, a worker that was started serves until it is stopped or fails. -/
theorem attentive_run
    (name : String)
    (handler : Handler σ)
    (initial : σ)
    (steps : List TrafficStep) :
    ((fresh name handler initial).run steps).Attentive handler initial := by
  induction steps using List.reverseRecOn with
  | nil =>
      intro started
      exact absurd rfl started
  | append_singleton steps step inductionHypothesis =>
      rw [run_append]
      exact
        inductionHypothesis.perform (carries_run name handler initial steps)
          (stoppable_run name handler initial steps) step

/-- A start makes a worker serve until it is stopped or fails, and every packet is taken. -/
theorem serves_run
    (name : String)
    (handler : Handler σ)
    (initial : σ)
    {steps : List TrafficStep}
    (started : .start ∈ steps)
    (unstopped : ((fresh name handler initial).run steps).stopCalls = 0)
    (faultless : ¬ handler.Faults initial ((fresh name handler initial).run steps).handled) :
    ((fresh name handler initial).run steps).worker.stage = .running ∧
      ∀ packet, (((fresh name handler initial).run steps).worker.enqueue packet).2 = true := by
  have begun : ((fresh name handler initial).run steps).worker.stage ≠ .fresh := by
    rw [ne_eq, stage_run_eq_fresh_iff]
    exact fun unstarted => unstarted.2 started
  obtain ⟨running, accepting, -⟩ :=
    attentive_run name handler initial steps begun unstopped faultless
  refine ⟨running, ?_⟩
  intro packet
  simp [Worker.enqueue, Worker.send, Worker.isOpen, running, accepting]

/-! ## Draining -/

/--
The first `count` packets that were sent lie in front of the stop message or were handed over,
unless a fatal failure came first.
-/
structure Owes
    (handler : Handler σ)
    (initial : σ)
    (count : Nat)
    (traffic : Traffic σ) :
    Prop where
  inside : traffic.worker.hasLeft = false →
    count ≤ traffic.handled.length + (packetsBeforeStop traffic.worker.queue).length
  outside : traffic.worker.hasLeft = true →
    handler.Faults initial traffic.handled ∨ count ≤ traffic.handled.length

/-- Before anybody stops the worker, everything that was sent lies in front of a stop message. -/
theorem owes_of_not_stopped
    {traffic : Traffic σ}
    (carries : traffic.Carries handler initial)
    (stoppable : traffic.Stoppable handler initial)
    (unstopped : traffic.stopCalls = 0) :
    traffic.Owes handler initial traffic.sent.length where
  inside := by
    intro inside
    have conserved := congrArg List.length (carries.conserved inside)
    rw [List.length_append, List.length_map,
      ← packetsBeforeStop_of_not_mem (stoppable.unstopped unstopped)] at conserved
    exact Nat.le_of_eq conserved.symm
  outside := by
    intro left
    exact .inl (stoppable.faulted unstopped left)

/-- No step makes the thread forget a packet that it owes to the handler. -/
theorem Owes.perform
    {traffic : Traffic σ}
    {count : Nat}
    (owes : traffic.Owes handler initial count)
    (carries : traffic.Carries handler initial)
    (step : TrafficStep) :
    (traffic.perform step).Owes handler initial count := by
  have channel := traffic.channelCase step
  generalize traffic.perform step = next at channel ⊢
  cases channel with
  | still next work state queue hasLeft isOpen joined sent handled =>
      constructor
      · rw [hasLeft, handled, queue]
        exact owes.inside
      · rw [hasLeft, handled]
        exact owes.outside
  | packet offer next isOpen worker sent handled =>
      constructor
      · -- A packet may go behind the stop message, but it moves nothing that is in front of it.
        intro inside
        rw [worker] at inside ⊢
        rw [handled]
        have kept := length_packetsBeforeStop_le traffic.worker.queue (.packet offer.packet)
        exact Nat.le_trans (owes.inside inside) (Nat.add_le_add_left kept _)
      · rw [worker, handled]
        exact owes.outside
  | stop next stopping worker sent handled =>
      constructor
      · intro inside
        rw [worker] at inside ⊢
        rw [handled]
        have kept := length_packetsBeforeStop_le traffic.worker.queue .stop
        exact Nat.le_trans (owes.inside inside) (Nat.add_le_add_left kept _)
      · rw [worker, handled]
        exact owes.outside
  | handsPacket packet others running front =>
      obtain ⟨-, fatal⟩ :=
        Worker.process_of_running { traffic.worker with queue := others } running packet
      have before := owes.inside (by rw [Worker.hasLeft, running])
      rw [front, packetsBeforeStop, List.length_cons] at before
      constructor
      · intro _
        rw [Worker.process_eq, List.length_append, List.length_singleton]
        dsimp only
        omega
      · intro left
        exact .inl (carries.faults running (fatal.symm.trans left))
  | takesStop others running front =>
      have before := owes.inside (by rw [Worker.hasLeft, running])
      rw [front] at before
      constructor
      · intro inside
        cases inside
      · intro _
        exact .inr before
  | closes faulted closing =>
      constructor
      · intro inside
        rw [(Worker.closed_of_closing closing).1] at inside
        cases inside
      · intro _
        refine owes.outside ?_
        rw [Worker.hasLeft, closing]

/-- However many steps follow, what is owed stays owed or has been handed over. -/
theorem Owes.run
    {traffic : Traffic σ}
    {count : Nat}
    (owes : traffic.Owes handler initial count)
    (carries : traffic.Carries handler initial)
    (steps : List TrafficStep) :
    (traffic.run steps).Owes handler initial count := by
  induction steps generalizing traffic with
  | nil => exact owes
  | cons step steps inductionHypothesis =>
      exact inductionHypothesis (owes.perform carries step) (carries.perform step)

theorem sent_prefix_perform
    (traffic : Traffic σ)
    (step : TrafficStep) :
    traffic.sent <+: (traffic.perform step).sent := by
  have channel := traffic.channelCase step
  generalize traffic.perform step = next at channel ⊢
  cases channel with
  | still next work state queue hasLeft isOpen joined sent handled =>
      exact ⟨[], by rw [sent, List.append_nil]⟩
  | packet offer next isOpen worker sent handled =>
      rw [sent]
      exact List.prefix_append _ _
  | stop next stopping worker sent handled =>
      exact ⟨[], by rw [sent, List.append_nil]⟩
  | handsPacket packet others running front => exact List.prefix_rfl
  | takesStop others running front => exact List.prefix_rfl
  | closes faulted closing => exact List.prefix_rfl

/-- What was sent stays sent, in the same order. -/
theorem sent_prefix_run
    (traffic : Traffic σ)
    (steps : List TrafficStep) :
    traffic.sent <+: (traffic.run steps).sent := by
  induction steps generalizing traffic with
  | nil => exact List.prefix_rfl
  | cons step steps inductionHypothesis =>
      exact (traffic.sent_prefix_perform step).trans (inductionHypothesis _)

/--
A thread that has left its loop without a fatal failure has handed over all that was sent before
anybody stopped the worker.
-/
theorem Stoppable.drained
    {traffic : Traffic σ}
    (stoppable : traffic.Stoppable handler initial)
    (carries : traffic.Carries handler initial)
    (unstopped : traffic.stopCalls = 0)
    {steps : List TrafficStep}
    (left : (traffic.run steps).worker.hasLeft = true)
    (faultless : ¬ handler.Faults initial (traffic.run steps).handled) :
    traffic.sent <+: (traffic.run steps).delivered := by
  have owes := (owes_of_not_stopped carries stoppable unstopped).run carries steps
  have enough := (owes.outside left).resolve_left faultless
  exact List.prefix_take_iff.mpr ⟨traffic.sent_prefix_run steps, enough⟩

/-- The packets that were sent before anybody stopped the worker are the first that are handled. -/
theorem Stoppable.sent_prefix_handled
    {traffic : Traffic σ}
    (stoppable : traffic.Stoppable handler initial)
    (carries : traffic.Carries handler initial)
    (unstopped : traffic.stopCalls = 0)
    {steps : List TrafficStep}
    (left : (traffic.run steps).worker.hasLeft = true)
    (faultless : ¬ handler.Faults initial (traffic.run steps).handled) :
    traffic.sent.map Offer.packet <+: (traffic.run steps).handled := by
  have carriesLater : (traffic.run steps).Carries handler initial :=
    run_induction (fun _ step carries => carries.perform step) carries steps
  rw [carriesLater.handled_eq]
  exact (stoppable.drained carries unstopped left faultless).map Offer.packet

/-! ## Every run -/

/-- What the steps of a run, from a worker that was not started, hand to the handler. -/
structure Delivers
    (name : String)
    (handler : Handler σ)
    (initial : σ)
    (steps : List TrafficStep)
    (traffic : Traffic σ) :
    Prop where
  /--
  Once started, and until it is stopped or fails fatally, a worker runs and takes every packet.
  -/
  serves : .start ∈ steps → traffic.stopCalls = 0 → ¬ handler.Faults initial traffic.handled →
    traffic.worker.stage = .running ∧ ∀ packet, (traffic.worker.enqueue packet).2 = true
  /-- The handler was given the packets that were sent first, in the order of the queue. -/
  first : traffic.handled <+: traffic.sent.map Offer.packet
  /-- The call of each packet that it was given. -/
  calls : traffic.handled = traffic.delivered.map Offer.packet
  /-- What the handler was given is all that it has worked on until it finishes. -/
  state : traffic.worker.isOpen = true →
    traffic.worker.state = handler.handleAll initial traffic.handled
  /-- Until the thread leaves its loop, what was sent is handled or still queued. -/
  conserved : traffic.worker.hasLeft = false →
    traffic.handled ++ queuedPackets traffic.worker.queue = traffic.sent.map Offer.packet
  /-- No call is handled twice. -/
  once : (traffic.delivered.map Offer.call).Nodup
  /-- The packets of a producer are handled in the order of its calls. -/
  ordered : ∀ producer,
    ((traffic.delivered.filter (·.producer = producer)).map Offer.turn).Pairwise (· < ·)
  /-- A call that returned false is never handled. -/
  refused : ∀ offer ∈ traffic.refused, offer.call ∉ traffic.delivered.map Offer.call
  /-- Every call that had returned true before anybody stopped the worker is handled. -/
  drained : ∀ before after, steps = before ++ after →
    ((fresh name handler initial).run before).stopCalls = 0 →
    traffic.worker.hasLeft = true →
    ¬ handler.Faults initial traffic.handled →
    ∀ offer ∈ ((fresh name handler initial).run before).sent, traffic.delivered.count offer = 1
  /-- The owner does not get the handler back before the thread has exited. -/
  joined : traffic.worker.joined = true → traffic.worker.hasLeft = true

/-- Whatever the order of steps and whatever the handler does, a worker delivers. -/
theorem delivers
    (name : String)
    (handler : Handler σ)
    (initial : σ)
    (steps : List TrafficStep) :
    Delivers name handler initial steps ((fresh name handler initial).run steps) := by
  have carries := carries_run name handler initial steps
  have numbered := numbered_run name handler initial steps
  have stoppable := stoppable_run name handler initial steps
  have serves := @serves_run σ name handler initial steps
  generalize final : (fresh name handler initial).run steps = traffic at *
  have early : traffic.delivered.Sublist traffic.sent := List.take_sublist _ _
  have once : (traffic.delivered.map Offer.call).Nodup :=
    numbered.nodup.sublist (early.map Offer.call)
  refine
    { serves := serves
      first := carries.first
      calls := carries.handled_eq
      state := carries.open_state
      conserved := carries.conserved
      once := once
      ordered := ?_
      refused := ?_
      drained := ?_
      joined := fun joined => Worker.hasLeft_of_not_isOpen (stoppable.joined joined) }
  · intro producer
    refine List.pairwise_map.mpr (((numbered.ordered.sublist early).filter _).imp_of_mem ?_)
    intro earlier later isEarlier isLater turns
    have earlierCaller := of_decide_eq_true (List.mem_filter.mp isEarlier).2
    have laterCaller := of_decide_eq_true (List.mem_filter.mp isLater).2
    exact turns (earlierCaller.trans laterCaller.symm)
  · intro offer rejected delivered
    obtain ⟨accepted, member, same⟩ := List.mem_map.mp delivered
    exact numbered.apart accepted (early.subset member) offer rejected same
  · -- The run is split where nobody has stopped the worker yet; what was sent is owed from there.
    rintro before after rfl unstopped left faultless offer member
    rw [run_append] at final
    have carries := carries_run name handler initial before
    have stoppable := stoppable_run name handler initial before
    rw [← final] at left faultless
    have handed := (stoppable.drained carries unstopped left faultless).subset member
    rw [final] at handed
    exact List.count_eq_one_of_mem (once.of_map _) handed

/-- A packet sent behind the stop message, by a call that read the flag before, is discarded. -/
example :
    let idle : Handler Unit := ⟨fun _ _ => ((), .done), fun _ => ((), .done)⟩
    let late := (fresh "late" idle ()).run
      [.start, .read 0 ⟨.navigation, 0, ⟨0⟩, []⟩, .beginStop, .finishStop, .send 0, .consume, .close]
    late.sent.length = 1 ∧ late.worker.hasLeft = true ∧ late.handled = [] := by
  decide

end Traffic

end DroneSession
