import DroneSession.Proofs.Worker.Reports
import DroneSession.Proofs.Worker.Watching

namespace DroneSession

/-!
# Reporting failures

What a worker reports follows from the calls of its handler: a fault for every packet whose failure
is neither absorbed nor fatal, in the order of the packets, and behind all faults the end of the
worker, if a call has ended it.  Behind a fatal packet the handler is given no other, and whichever
way the thread leaves its loop, the handler finishes once.
-/

/-- A failure that ends a worker is not one that is dropped without a word. -/
theorem SessionError.not_absorbed_of_fatal
    {error : SessionError}
    (fatal : error.isFatal = true) :
    error.isAbsorbed = false := by
  cases error <;> first | rfl | cases fatal

namespace HandlerCall

/-- Whether a packet has made the handler fail fatally. -/
def isFatal : HandlerCall → Bool
  | .handle _ outcome => outcome.isFatal
  | .finish _ => false

/-- The fault of a packet that makes its worker report something and go on. -/
def fault? (name : String) : HandlerCall → Option Notification
  | .handle _ (.panicked message) => some (.workerFault name (panicText message))
  | .handle _ (.failed error) =>
      if error.isAbsorbed || error.isFatal then
        none
      else
        some (.workerFault name error.message)
  | _ => none

/-- The failure with which a call ends a worker. -/
def ending? : HandlerCall → Option SessionError
  | .handle _ (.failed error) => if error.isFatal then some error else none
  | .finish (.failed error) => some error
  | _ => none

/-- The faults that some calls make a worker report, in the order of the calls. -/
def faults
    (name : String)
    (calls : List HandlerCall) :
    List Notification :=
  calls.filterMap (fault? name)

/-- The end that some calls make a worker report; only the first call that ends it counts. -/
def stop?
    (name : String)
    (calls : List HandlerCall) :
    Option Notification :=
  (calls.findSome? ending?).map fun error => .workerStopped name error.message

/-- A call with a packet ends the worker exactly if it is fatal. -/
theorem ending?_handle_eq_none_iff
    {packet : Packet}
    {outcome : HandlerOutcome} :
    (HandlerCall.handle packet outcome).ending? = none ↔ outcome.isFatal = false := by
  cases outcome with
  | done => simp [ending?, HandlerOutcome.isFatal]
  | panicked message => simp [ending?, HandlerOutcome.isFatal]
  | failed error =>
      cases fatal : error.isFatal with
      | false => simp [ending?, HandlerOutcome.isFatal, fatal]
      | true =>
          simp [ending?, HandlerOutcome.isFatal, fatal, SessionError.not_absorbed_of_fatal fatal]

/-- What is reported of a packet that does not end the worker is its fault. -/
theorem reports_of_not_fatal
    (name : String)
    (packet : Packet)
    {outcome : HandlerOutcome}
    (goesOn : outcome.isFatal = false) :
    outcome.reports name = ((HandlerCall.handle packet outcome).fault? name).toList := by
  cases outcome with
  | done => rfl
  | panicked message => rfl
  | failed error =>
      cases absorbed : error.isAbsorbed <;> cases fatal : error.isFatal <;>
        simp_all [HandlerOutcome.reports, HandlerOutcome.isFatal, fault?]

/-- What is reported of a packet that ends the worker is its end and no fault. -/
theorem exists_error_of_fatal
    (name : String)
    (packet : Packet)
    {outcome : HandlerOutcome}
    (fatal : outcome.isFatal = true) :
    ∃ error, (HandlerCall.handle packet outcome).ending? = some error ∧
      (HandlerCall.handle packet outcome).fault? name = none ∧
      outcome.reports name = [.workerStopped name error.message] := by
  cases outcome with
  | done => cases fatal
  | panicked message => cases fatal
  | failed error =>
      simp only [HandlerOutcome.isFatal, Bool.and_eq_true, Bool.not_eq_true'] at fatal
      refine ⟨error, ?_, ?_, ?_⟩
      · simp [ending?, fatal.2]
      · simp [fault?, fatal.2]
      · simp [HandlerOutcome.reports, fatal.1, fatal.2]

/-- Of the end of the handler only its failure is reported, and never as a fault. -/
theorem finalReports_eq
    (name : String)
    (outcome : HandlerOutcome) :
    outcome.finalReports name false = (stop? name [.finish outcome]).toList := by
  cases outcome <;> rfl

/-- Calls that let the worker go on do not decide which end it reports. -/
theorem stop?_append
    (name : String)
    {earlier : List HandlerCall}
    (goesOn : ∀ call ∈ earlier, call.ending? = none)
    (later : List HandlerCall) :
    stop? name (earlier ++ later) = stop? name later := by
  rw [stop?, List.findSome?_append, List.findSome?_eq_none_iff.mpr goesOn]
  rfl

/-- The end of a worker is among its reports exactly if a call has ended it. -/
theorem workerStopped_mem_iff
    {name : String}
    {calls : List HandlerCall} :
    (∃ error, Notification.workerStopped name error ∈ faults name calls ++
        (stop? name calls).toList) ↔
      ∃ call ∈ calls, call.ending? ≠ none := by
  have noFault : ∀ error, Notification.workerStopped name error ∉ faults name calls := by
    intro error member
    obtain ⟨call, -, fault⟩ := List.mem_filterMap.mp member
    unfold fault? at fault
    split at fault
    · simp at fault
    · split at fault <;> simp at fault
    · cases fault
  constructor
  · rintro ⟨error, member⟩
    by_contra silent
    push Not at silent
    have none := stop?_append name silent []
    rw [List.append_nil] at none
    rw [none, stop?] at member
    simp [noFault] at member
  · rintro ⟨call, member, ends⟩
    obtain ⟨error, first⟩ := Option.isSome_iff_exists.mp
      (List.findSome?_isSome_iff.mpr ⟨call, member, Option.isSome_iff_ne_none.mpr ends⟩)
    exact ⟨error.message, by simp [stop?, first]⟩

/-- A worker is ended by a fatal packet or by a handler that fails to finish. -/
theorem exists_ending_iff
    {calls : List HandlerCall} :
    (∃ call ∈ calls, call.ending? ≠ none) ↔
      (∃ call ∈ calls, call.isFatal = true) ∨ ∃ error, .finish (.failed error) ∈ calls := by
  constructor
  · rintro ⟨call, member, ends⟩
    cases call with
    | handle packet outcome =>
        rw [Ne, ending?_handle_eq_none_iff, Bool.not_eq_false] at ends
        exact .inl ⟨_, member, ends⟩
    | finish outcome =>
        cases outcome with
        | failed error => exact .inr ⟨error, member⟩
        | done => exact absurd rfl ends
        | panicked message => exact absurd rfl ends
  · rintro (⟨call, member, fatal⟩ | ⟨error, member⟩)
    · refine ⟨call, member, ?_⟩
      cases call with
      | handle packet outcome =>
          rw [Ne, ending?_handle_eq_none_iff, Bool.not_eq_false]
          exact fatal
      | finish outcome => cases fatal
    · exact ⟨_, member, by simp [ending?]⟩

end HandlerCall

namespace Handler

variable {σ : Type} {handler : Handler σ} {initial : σ} {name : String}

/-- The packets that a handler is given of some that wait for it. -/
def served
    (handler : Handler σ)
    (state : σ) :
    List Packet → List Packet
  | [] => []
  | packet :: packets =>
      if (handler.handle state packet).2.isFatal then
        [packet]
      else
        packet :: handler.served (handler.handle state packet).1 packets

/-- What a handler is asked to do at its end, which is when the thread has closed the queue. -/
def endCalls
    (handler : Handler σ)
    (state : σ) :
    ThreadStage → List HandlerCall
  | .exited => [.finish (handler.finish state).2]
  | .lost => [.finish (handler.finish state).2]
  | _ => []

/-- The end of a handler is about no packet. -/
theorem packet?_of_mem_endCalls
    {state : σ}
    {stage : ThreadStage}
    {call : HandlerCall}
    (member : call ∈ handler.endCalls state stage) :
    call.packet? = none := by
  unfold endCalls at member
  split at member
  · rw [List.mem_singleton.mp member]
    rfl
  · rw [List.mem_singleton.mp member]
    rfl
  · cases member

/-- The end of a handler is never reported as a fault. -/
theorem faults_append_endCalls
    (name : String)
    (calls : List HandlerCall)
    (state : σ)
    (stage : ThreadStage) :
    HandlerCall.faults name (calls ++ handler.endCalls state stage) =
      HandlerCall.faults name calls := by
  have none : HandlerCall.faults name (handler.endCalls state stage) = [] := by
    cases stage <;> rfl
  rw [HandlerCall.faults, List.filterMap_append]
  exact (congrArg (_ ++ ·) none).trans (List.append_nil _)

/-- No packet makes the loop fail exactly if no call with one ends the worker. -/
theorem not_faults_iff
    {packets : List Packet} :
    ¬ handler.Faults initial packets ↔
      ∀ call ∈ handler.callsOf initial packets, call.ending? = none := by
  induction packets using List.reverseRecOn with
  | nil => simp [callsOf, handler.not_faults_nil initial]
  | append_singleton packets packet inductionHypothesis =>
      rw [faults_concat_iff, not_or, inductionHypothesis, callsOf_concat, List.forall_mem_append,
        List.forall_mem_singleton, HandlerCall.ending?_handle_eq_none_iff, Bool.not_eq_true]

/-- No packet makes the loop fail exactly if no call with one is fatal. -/
theorem not_faults_iff_not_fatal
    {packets : List Packet} :
    ¬ handler.Faults initial packets ↔
      ∀ call ∈ handler.callsOf initial packets, call.isFatal = false := by
  induction packets using List.reverseRecOn with
  | nil => simp [callsOf, handler.not_faults_nil initial]
  | append_singleton packets packet inductionHypothesis =>
      rw [faults_concat_iff, not_or, inductionHypothesis, callsOf_concat, List.forall_mem_append,
        List.forall_mem_singleton, HandlerCall.isFatal, Bool.not_eq_true]

/-- Short of a fatal failure, what is reported of some packets are their faults. -/
theorem reportsOf_eq_faults
    (name : String)
    {packets : List Packet}
    (faultless : ¬ handler.Faults initial packets) :
    handler.reportsOf name initial packets =
      HandlerCall.faults name (handler.callsOf initial packets) := by
  induction packets using List.reverseRecOn with
  | nil => rfl
  | append_singleton packets packet inductionHypothesis =>
      rw [faults_concat_iff, not_or, Bool.not_eq_true] at faultless
      rw [reportsOf_concat, callsOf_concat, inductionHypothesis faultless.1,
        HandlerCall.reports_of_not_fatal name packet faultless.2, HandlerCall.faults,
        HandlerCall.faults, List.filterMap_append, List.filterMap_cons]
      cases HandlerCall.fault? name (.handle packet _) <;> rfl

end Handler

namespace Worker

variable {σ : Type}

/-- A call that comes after the exit returns false and leaves no trace. -/
theorem enqueue_of_closed
    {worker : Worker σ}
    (closed : worker.isOpen = false)
    (packet : Packet) :
    worker.enqueue packet = (worker, false) := by
  unfold enqueue send
  simp [closed]

end Worker

namespace Traffic

variable {σ : Type} {handler : Handler σ} {initial : σ} {name : String}

/-- The calls that a handler has had are those with the packets and, at the end, that to finish. -/
theorem calls_run
    (name : String)
    (handler : Handler σ)
    (initial : σ)
    (steps : List TrafficStep) :
    ((watched name handler initial).run steps).calls =
      handler.callsOf initial ((watched name handler initial).run steps).handled ++
        handler.endCalls
          (handler.handleAll initial ((watched name handler initial).run steps).handled)
          ((watched name handler initial).run steps).worker.stage := by
  have carries := carries_run name handler.logged (initial, []) steps
  change ((watched name handler initial).run steps).Carries handler.logged (initial, []) at carries
  generalize (watched name handler initial).run steps = traffic at carries ⊢
  have logged := handler.handleAll_logged initial [] traffic.handled
  rw [List.nil_append] at logged
  have whileOpen := carries.open_state
  have atEnd := carries.closed_state
  rw [logged] at whileOpen atEnd
  rw [calls]
  cases stage : traffic.worker.stage with
  | fresh =>
      rw [whileOpen (by rw [Worker.isOpen, stage])]
      exact (List.append_nil _).symm
  | running =>
      rw [whileOpen (by rw [Worker.isOpen, stage])]
      exact (List.append_nil _).symm
  | closing faulted =>
      rw [whileOpen (by rw [Worker.isOpen, stage])]
      exact (List.append_nil _).symm
  | exited =>
      rw [atEnd (by rw [Worker.isOpen, stage])]
      rfl
  | lost =>
      rw [atEnd (by rw [Worker.isOpen, stage])]
      rfl

/-- What a worker has reported at any stage of its thread. -/
theorem Reported.notifications_eq
    {handled : List Packet}
    {stage : ThreadStage}
    {notifications : List Notification}
    (reported : Reported name handler initial handled stage notifications) :
    notifications =
      HandlerCall.faults name (handler.callsOf initial handled) ++
        (HandlerCall.stop? name
          (handler.callsOf initial handled ++
            handler.endCalls (handler.handleAll initial handled) stage)).toList := by
  cases reported with
  | sound inside faultless =>
      have unfinished : handler.endCalls (handler.handleAll initial handled) stage = [] := by
        rcases inside with rfl | rfl | rfl <;> rfl
      rw [HandlerCall.stop?_append name (Handler.not_faults_iff.mp faultless), unfinished,
        handler.reportsOf_eq_faults name faultless]
      exact (List.append_nil _).symm
  | halted left earlier packet parts halts =>
      obtain ⟨error, ending, fault, report⟩ :=
        HandlerCall.exists_error_of_fatal name packet halts.2
      have goesOn := Handler.not_faults_iff.mp halts.1
      rw [parts, Handler.reportsOf_concat, Handler.callsOf_concat, List.append_assoc,
        HandlerCall.stop?_append name goesOn, handler.reportsOf_eq_faults name halts.1, report]
      simp [HandlerCall.faults, HandlerCall.stop?, ending, fault]
  | finished closed faultless =>
      have finish : handler.endCalls (handler.handleAll initial handled) stage =
          [.finish (handler.finish (handler.handleAll initial handled)).2] := by
        rcases handler.lastStage_closed (handler.handleAll initial handled) with last | last <;>
          rw [closed, last] <;> rfl
      rw [HandlerCall.stop?_append name (Handler.not_faults_iff.mp faultless), finish,
        handler.reportsOf_eq_faults name faultless, HandlerCall.finalReports_eq]

/-- Behind a packet that has ended the loop there is nothing but the end of the handler. -/
theorem Reported.pairwise_callsOf
    {handled : List Packet}
    {stage : ThreadStage}
    {notifications : List Notification}
    (reported : Reported name handler initial handled stage notifications) :
    (handler.callsOf initial handled).Pairwise fun earlier _ => earlier.isFatal = false := by
  rcases reported.faultless_or_halted with faultless | ⟨earlier, packet, rfl, halts⟩
  · have goesOn := Handler.not_faults_iff_not_fatal.mp faultless
    exact List.pairwise_of_forall_mem_list fun call member _ _ => goesOn call member
  · have goesOn := Handler.not_faults_iff_not_fatal.mp halts.1
    rw [Handler.callsOf_concat]
    refine List.pairwise_append.mpr ⟨?_, List.pairwise_singleton _ _, ?_⟩
    · exact List.pairwise_of_forall_mem_list fun call member _ _ => goesOn call member
    · exact fun call member _ _ => goesOn call member

/-! ## The steps of the thread alone -/

/-- A thread outside its loop takes nothing, however many steps it has. -/
theorem run_consume_of_not_running
    {traffic : Traffic σ}
    (outside : traffic.worker.stage ≠ .running)
    (count : Nat) :
    traffic.run (List.replicate count .consume) = traffic := by
  have none : traffic.worker.nextPacket? = none := by
    unfold Worker.nextPacket?
    split
    · rename_i packet others running front
      exact absurd running outside
    · rfl
  have still : traffic.perform .consume = traffic := by
    rw [perform, Worker.consume_of_not_running outside, none]
    simp
  induction count with
  | zero => rfl
  | succ count inductionHypothesis =>
      rw [List.replicate_succ, run, List.foldl_cons, still]
      exact inductionHypothesis

/-- The messages in a queue make a thread leave its loop. -/
def Ends
    (handler : Handler σ)
    (state : σ)
    (queue : List Message) :
    Prop :=
  .stop ∈ queue ∨
    ∃ call ∈ handler.callsOf state (packetsBeforeStop queue), call.isFatal = true

/-- A thread that has a packet in front leaves its loop because of it or because of what follows. -/
theorem ends_packet_iff
    {state : σ}
    {packet : Packet}
    {others : List Message} :
    Ends handler state (.packet packet :: others) ↔
      (handler.handle state packet).2.isFatal = true ∨
        Ends handler (handler.handle state packet).1 others := by
  simp only [Ends, packetsBeforeStop, Handler.callsOf, List.mem_cons, reduceCtorEq, false_or,
    exists_eq_or_imp, HandlerCall.isFatal]
  exact or_left_comm

/-- What a thread in its loop has come to with a step for each message. -/
structure ComesTo
    (handler : Handler σ)
    (before after : Traffic σ) :
    Prop where
  handled : after.handled = before.handled ++
    handler.served before.worker.state (packetsBeforeStop before.worker.queue)
  left : Ends handler before.worker.state before.worker.queue →
    ∃ faulted, after.worker.stage = .closing faulted
  stays : ¬ Ends handler before.worker.state before.worker.queue →
    after.worker.stage = .running

/-- With a step for each message a thread has served its queue as far as the queue goes. -/
theorem comesTo_of_running
    {traffic : Traffic σ}
    (work : traffic.worker.handler = handler)
    (running : traffic.worker.stage = .running) :
    ComesTo handler traffic
      (traffic.run (List.replicate traffic.worker.queue.length .consume)) := by
  generalize waiting : traffic.worker.queue = queue
  induction queue generalizing traffic with
  | nil =>
      refine ⟨?_, ?_, fun _ => running⟩
      · rw [waiting]
        exact (List.append_nil _).symm
      · intro ends
        rw [waiting] at ends
        simp [Ends, packetsBeforeStop, Handler.callsOf] at ends
  | cons message others inductionHypothesis =>
      rw [List.length_cons, List.replicate_succ, run, List.foldl_cons]
      cases message with
      | stop =>
          have taken : traffic.perform .consume =
              { traffic with
                worker := { traffic.worker with queue := others, stage := .closing false } } := by
            simp [perform, Worker.consume, Worker.nextPacket?, running, waiting]
          -- What waits behind the stop message is never taken.
          rw [taken]
          change ComesTo handler traffic (run _ _)
          rw [run_consume_of_not_running (by simp)]
          refine ⟨?_, fun _ => ⟨false, rfl⟩, ?_⟩
          · rw [waiting]
            exact (List.append_nil _).symm
          · intro goesOn
            rw [waiting] at goesOn
            simp [Ends] at goesOn
      | packet packet =>
          have next : traffic.worker.nextPacket? = some packet := by
            simp only [Worker.nextPacket?, running, waiting]
          subst work
          cases fatal : (traffic.worker.handler.handle traffic.worker.state packet).2.isFatal with
          | true =>
              rw [perform, next, Worker.consume_of_fatal running waiting fatal]
              change ComesTo traffic.worker.handler traffic (run _ _)
              rw [run_consume_of_not_running (by simp)]
              refine ⟨?_, fun _ => ⟨true, rfl⟩, ?_⟩
              · rw [waiting, packetsBeforeStop, Handler.served, if_pos fatal]
                rfl
              · intro goesOn
                rw [waiting, ends_packet_iff] at goesOn
                exact absurd (.inl fatal) goesOn
          | false =>
              rw [perform, next, Worker.consume_of_not_fatal running waiting fatal]
              have later := @inductionHypothesis
                { traffic with
                  worker :=
                    { traffic.worker with
                      queue := others
                      state := (traffic.worker.handler.handle traffic.worker.state packet).1
                      notifications := traffic.worker.notifications ++
                        (traffic.worker.handler.handle traffic.worker.state packet).2.reports
                          traffic.worker.name }
                  handled := traffic.handled ++ [packet] }
                rfl running rfl
              have sameEnds : Ends traffic.worker.handler traffic.worker.state
                  traffic.worker.queue ↔
                  Ends traffic.worker.handler
                    (traffic.worker.handler.handle traffic.worker.state packet).1 others := by
                rw [waiting, ends_packet_iff, fatal]
                simp
              refine ⟨?_, fun ends => later.left (sameEnds.mp ends),
                fun goesOn => later.stays (fun ends => goesOn (sameEnds.mpr ends))⟩
              have handled := later.handled
              rw [List.append_assoc] at handled
              rw [waiting, packetsBeforeStop, Handler.served, fatal]
              exact handled

/-- With one step more a thread that has left its loop closes the queue. -/
theorem close_of_comesTo
    {before after : Traffic σ}
    (comesTo : ComesTo handler before after) :
    (after.perform .close).handled = before.handled ++
        handler.served before.worker.state (packetsBeforeStop before.worker.queue) ∧
      ((after.perform .close).worker.isOpen = false ↔
        Ends handler before.worker.state before.worker.queue) := by
  refine ⟨comesTo.handled, ?_⟩
  by_cases ends : Ends handler before.worker.state before.worker.queue
  · obtain ⟨faulted, closing⟩ := comesTo.left ends
    exact iff_of_true (Worker.closed_of_closing closing).2 ends
  · have running := comesTo.stays ends
    refine iff_of_false ?_ ends
    rw [perform, Worker.close_of_not_closing (by simp [running]), Worker.isOpen, running]
    simp

/-! ## After the exit -/

/-- Nothing reaches the queue of a thread that has closed it. -/
theorem closed_perform
    {traffic : Traffic σ}
    (closed : traffic.worker.isOpen = false)
    (step : TrafficStep) :
    (traffic.perform step).worker.isOpen = false ∧
      (traffic.perform step).sent = traffic.sent := by
  have outside : traffic.worker.stage ≠ .running ∧
      ∀ faulted, traffic.worker.stage ≠ .closing faulted := by
    unfold Worker.isOpen at closed
    cases stage : traffic.worker.stage <;> simp_all
  have channel := traffic.channelCase step
  generalize traffic.perform step = next at channel ⊢
  cases channel with
  | still next work state queue hasLeft isOpen joined sent handled =>
      exact ⟨isOpen.trans closed, sent⟩
  | packet offer next isOpen worker sent handled =>
      rw [closed] at isOpen
      cases isOpen
  | stop next stopping worker sent handled =>
      rw [worker]
      exact ⟨closed, sent⟩
  | handsPacket packet others running front => exact absurd running outside.1
  | takesStop others running front => exact absurd running outside.1
  | closes faulted closing => exact absurd closing (outside.2 faulted)

/-- However many steps follow the exit, the queue stays closed and nothing more is sent. -/
theorem closed_run
    {traffic : Traffic σ}
    (closed : traffic.worker.isOpen = false)
    (steps : List TrafficStep) :
    (traffic.run steps).worker.isOpen = false ∧ (traffic.run steps).sent = traffic.sent := by
  induction steps generalizing traffic with
  | nil => exact ⟨closed, rfl⟩
  | cons step steps inductionHypothesis =>
      obtain ⟨closedNext, sameSent⟩ := closed_perform closed step
      obtain ⟨closedLast, sent⟩ := inductionHypothesis closedNext
      exact ⟨closedLast, sent.trans sameSent⟩

/-! ## Every run -/

/-- A start makes a worker with a watched handler serve until it is stopped or a call is fatal. -/
theorem watched_serves_run
    (name : String)
    (handler : Handler σ)
    (initial : σ)
    {steps : List TrafficStep}
    (started : .start ∈ steps)
    (unstopped : ((watched name handler initial).run steps).stopCalls = 0)
    (goesOn : ∀ call ∈ ((watched name handler initial).run steps).calls, call.isFatal = false) :
    ((watched name handler initial).run steps).worker.stage = .running ∧
      ∀ packet, (((watched name handler initial).run steps).worker.enqueue packet).2 = true := by
  have serves := @serves_run σ name handler initial steps started
  rw [← forget_run] at serves
  rw [calls_run] at goesOn
  have faultless := Handler.not_faults_iff_not_fatal.mpr fun call member =>
    goesOn call (List.mem_append_left _ member)
  obtain ⟨running, taken⟩ := serves unstopped faultless
  refine ⟨running, ?_⟩
  intro packet
  have same :=
    @Worker.forget_enqueue σ handler ((watched name handler initial).run steps).worker packet
  exact (congrArg Prod.snd same).symm.trans (taken packet)

/-- What a worker whose handler is watched has reported after some steps. -/
structure ReportsFailures
    (name : String)
    (handler : Handler σ)
    (initial : σ)
    (steps : List TrafficStep)
    (traffic : Traffic (σ × List HandlerCall)) :
    Prop where
  /--
  Once started, and until it is stopped or fails fatally, a worker runs and takes every packet.
  -/
  runs : .start ∈ steps → traffic.stopCalls = 0 → (∀ call ∈ traffic.calls, call.isFatal = false) →
    traffic.worker.stage = .running ∧ ∀ packet, (traffic.worker.enqueue packet).2 = true
  /-- The faults of the packets in their order, then at most one end of the worker. -/
  notifications : traffic.worker.notifications =
    HandlerCall.faults name traffic.calls ++ (HandlerCall.stop? name traffic.calls).toList
  /-- The end is reported exactly if a packet was fatal or the handler has failed to finish. -/
  stopped : (∃ error, .workerStopped name error ∈ traffic.worker.notifications) ↔
    (∃ call ∈ traffic.calls, call.isFatal = true) ∨
      ∃ error, .finish (.failed error) ∈ traffic.calls
  /--
  The handler is given each packet once, and finishes once, behind them, when the queue closes.
  -/
  calls : traffic.calls =
    handler.callsOf initial traffic.handled ++
      handler.endCalls (handler.handleAll initial traffic.handled) traffic.worker.stage
  /-- Behind a fatal packet the handler is given no other. -/
  halted : traffic.calls.Pairwise fun earlier later =>
    earlier.isFatal = true → later.packet? = none
  /-- Whatever is in the queue, the thread serves it up to a stop message or a fatal packet. -/
  serves : traffic.worker.stage = .running →
    ∀ ended, ended = traffic.run
        (List.replicate traffic.worker.queue.length .consume ++ [.close]) →
      ended.handled = traffic.handled ++
        handler.served traffic.worker.state.1 (packetsBeforeStop traffic.worker.queue) ∧
      (ended.worker.isOpen = false ↔
        Ends handler traffic.worker.state.1 traffic.worker.queue)
  /-- A thread that has left its loop closes, whatever has ended the loop. -/
  closes : ∀ faulted, traffic.worker.stage = .closing faulted →
    (traffic.perform .close).worker.isOpen = false
  /-- From then on no call returns true, not even one that read the flag before. -/
  refuses : traffic.worker.isOpen = false → ∀ later,
    (traffic.run later).sent = traffic.sent ∧
    ∀ packet, ((traffic.run later).worker.enqueue packet).2 = false
  /-- Watching the handler has changed nothing. -/
  faithful : traffic.forget handler = (fresh name handler initial).run steps

/-- Whatever the order of steps and whatever the handler does, its failures are reported. -/
theorem reports_failures
    (name : String)
    (handler : Handler σ)
    (initial : σ)
    (steps : List TrafficStep) :
    ReportsFailures name handler initial steps ((watched name handler initial).run steps) := by
  have calls := calls_run name handler initial steps
  have faithful := forget_run name handler initial
  have accounts := accounts_run name handler initial steps
  rw [← faithful steps] at accounts
  have reported : Reported name handler initial
      ((watched name handler initial).run steps).handled
      ((watched name handler initial).run steps).worker.stage
      ((watched name handler initial).run steps).worker.notifications := accounts.reported
  have work := (carries_run name handler initial steps).work
  rw [← faithful steps] at work
  have runs := @watched_serves_run σ name handler initial steps
  have later : ∀ more, (((watched name handler initial).run steps).run more).forget handler =
      (((watched name handler initial).run steps).forget handler).run more := by
    intro more
    rw [← run_append, faithful, run_append, ← faithful steps]
  have traced := faithful steps
  generalize (watched name handler initial).run steps = traffic at *
  have notifications : traffic.worker.notifications =
      HandlerCall.faults name traffic.calls ++ (HandlerCall.stop? name traffic.calls).toList := by
    rw [calls, handler.faults_append_endCalls]
    exact reported.notifications_eq
  refine
    { runs := runs
      notifications := notifications
      stopped := ?_
      calls := calls
      halted := ?_
      serves := ?_
      closes := fun _ closing => (Worker.closed_of_closing closing).2
      refuses := ?_
      faithful := traced }
  · rw [notifications, HandlerCall.workerStopped_mem_iff, HandlerCall.exists_ending_iff]
  · rw [calls]
    refine List.pairwise_append.mpr ⟨?_, ?_, ?_⟩
    · refine reported.pairwise_callsOf.imp ?_
      intro earlier call goesOn fatal
      rw [goesOn] at fatal
      cases fatal
    · exact List.pairwise_of_forall_mem_list fun _ _ _ member _ =>
        Handler.packet?_of_mem_endCalls member
    · exact fun _ _ _ member _ => Handler.packet?_of_mem_endCalls member
  · -- What the thread does is told by the worker around the handler itself.
    rintro running ended rfl
    have comesTo := close_of_comesTo (comesTo_of_running work running)
    have whole : ((traffic.forget handler).run
        (List.replicate (traffic.forget handler).worker.queue.length .consume)).perform .close =
        (traffic.run
          (List.replicate traffic.worker.queue.length .consume ++ [.close])).forget handler := by
      rw [later, run_append]
      rfl
    rw [whole] at comesTo
    exact comesTo
  · intro closed more
    obtain ⟨closedStill, sent⟩ := closed_run closed more
    refine ⟨sent, ?_⟩
    intro packet
    rw [Worker.enqueue_of_closed closedStill]

end Traffic

end DroneSession
