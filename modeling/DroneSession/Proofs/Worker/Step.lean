import DroneSession.Worker.Basic

namespace DroneSession

/-!
# Steps of a worker's thread

What one step of the thread does is said here once, for every handler: taking a packet hands it to
the handler and looks at the outcome, taking the stop message leaves the loop, and closing lets the
handler finish.
-/

namespace HandlerOutcome

/-- Whether an outcome makes the thread leave its loop. -/
def isFatal : HandlerOutcome → Bool
  | .failed error => !error.isAbsorbed && error.isFatal
  | _ => false

/-- What a worker reports of a packet with an outcome. -/
def reports (name : String) : HandlerOutcome → List Notification
  | .done => []
  | .panicked message => [.workerFault name (panicText message)]
  | .failed error =>
      if error.isAbsorbed then
        []
      else if error.isFatal then
        [.workerStopped name error.message]
      else
        [.workerFault name error.message]

/-- Whether the state of a handler is lost because it panicked while it finished. -/
def isPanic : HandlerOutcome → Bool
  | .panicked _ => true
  | _ => false

/-- What a worker reports of its end, unless it has reported a fatal failure before. -/
def finalReports
    (name : String)
    (faulted : Bool) :
    HandlerOutcome → List Notification
  | .failed error => if faulted then [] else [.workerStopped name error.message]
  | _ => []

end HandlerOutcome

namespace Handler

variable {σ : Type}

/-- The state of a handler after some packets. -/
def handleAll
    (handler : Handler σ)
    (state : σ)
    (packets : List Packet) :
    σ :=
  packets.foldl (fun state packet => (handler.handle state packet).1) state

theorem handleAll_concat
    (handler : Handler σ)
    (state : σ)
    (packets : List Packet)
    (packet : Packet) :
    handler.handleAll state (packets ++ [packet]) =
      (handler.handle (handler.handleAll state packets) packet).1 := by
  rw [handleAll, List.foldl_append]
  rfl

end Handler

namespace Worker

variable {σ : Type}

/-- Whether the thread has left its loop. -/
def hasLeft (worker : Worker σ) : Bool :=
  match worker.stage with
  | .fresh => false
  | .running => false
  | _ => true

/-- A queue is closed by a thread that has left its loop. -/
theorem hasLeft_of_not_isOpen
    {worker : Worker σ}
    (closed : worker.isOpen = false) :
    worker.hasLeft = true := by
  unfold isOpen at closed
  unfold hasLeft
  cases stage : worker.stage <;> simp_all

/-- The packet that the thread hands to the handler when it takes the next message. -/
def nextPacket? (worker : Worker σ) : Option Packet :=
  match worker.stage, worker.queue with
  | .running, .packet packet :: _ => some packet
  | _, _ => none

/-- Handing a packet to the handler: a fatal outcome leaves the loop, any other goes on. -/
theorem process_eq
    (worker : Worker σ)
    (packet : Packet) :
    worker.process packet =
      { worker with
        state := (worker.handler.handle worker.state packet).1
        stage :=
          if (worker.handler.handle worker.state packet).2.isFatal then
            .closing true
          else
            worker.stage
        accepting :=
          worker.accepting && !(worker.handler.handle worker.state packet).2.isFatal
        notifications :=
          worker.notifications ++
            (worker.handler.handle worker.state packet).2.reports worker.name } := by
  unfold process
  rcases worker.handler.handle worker.state packet with ⟨state, outcome⟩
  cases outcome with
  | done => simp [HandlerOutcome.isFatal, HandlerOutcome.reports]
  | panicked message => simp [HandlerOutcome.isFatal, HandlerOutcome.reports, notify]
  | failed error =>
      cases absorbed : error.isAbsorbed <;> cases fatal : error.isFatal <;>
        simp [HandlerOutcome.isFatal, HandlerOutcome.reports, notify, refuse, absorbed, fatal]

/--
A thread in its loop that hands over a packet leaves the loop exactly if the outcome is fatal.
-/
theorem process_of_running
    (worker : Worker σ)
    (running : worker.stage = .running)
    (packet : Packet) :
    (worker.process packet).isOpen = true ∧
      (worker.process packet).hasLeft = (worker.handler.handle worker.state packet).2.isFatal := by
  rw [process_eq, isOpen, hasLeft]
  cases fatal : (worker.handler.handle worker.state packet).2.isFatal <;> simp [running]

/-- A thread that takes a packet processes it with the rest of the queue behind it. -/
theorem consume_eq_process
    {worker : Worker σ}
    {packet : Packet}
    {others : List Message}
    (running : worker.stage = .running)
    (front : worker.queue = .packet packet :: others) :
    worker.consume = { worker with queue := others }.process packet := by
  unfold consume
  rw [running, front]

/-- A packet that makes the handler fail fatally is the last that the thread takes. -/
theorem consume_of_fatal
    {worker : Worker σ}
    {packet : Packet}
    {others : List Message}
    (running : worker.stage = .running)
    (front : worker.queue = .packet packet :: others)
    (fatal : (worker.handler.handle worker.state packet).2.isFatal = true) :
    worker.consume =
      { worker with
        queue := others
        state := (worker.handler.handle worker.state packet).1
        stage := .closing true
        accepting := false
        notifications :=
          worker.notifications ++
            (worker.handler.handle worker.state packet).2.reports worker.name } := by
  rw [consume_eq_process running front, process_eq]
  simp only [fatal, if_true, Bool.not_true, Bool.and_false]

/-- Any other packet leaves the thread in its loop. -/
theorem consume_of_not_fatal
    {worker : Worker σ}
    {packet : Packet}
    {others : List Message}
    (running : worker.stage = .running)
    (front : worker.queue = .packet packet :: others)
    (goesOn : (worker.handler.handle worker.state packet).2.isFatal = false) :
    worker.consume =
      { worker with
        queue := others
        state := (worker.handler.handle worker.state packet).1
        notifications :=
          worker.notifications ++
            (worker.handler.handle worker.state packet).2.reports worker.name } := by
  rw [consume_eq_process running front, process_eq]
  simp only [goesOn, Bool.false_eq_true, if_false, Bool.not_false, Bool.and_true]

/-- Taking a packet leaves the state to the handler, whatever the outcome. -/
theorem state_consume
    {worker : Worker σ}
    {packet : Packet}
    (next : worker.nextPacket? = some packet) :
    worker.consume.state = (worker.handler.handle worker.state packet).1 := by
  unfold nextPacket? at next
  split at next
  · rename_i first others running front
    obtain rfl := Option.some.inj next
    rw [consume_eq_process running front, process_eq]
  · cases next

/-- Everything that taking a message can do. -/
inductive ConsumeCase (worker : Worker σ) : Worker σ → Prop where
  | packet
      (packet : Packet)
      (others : List Message)
      (running : worker.stage = .running)
      (front : worker.queue = .packet packet :: others) :
      ConsumeCase worker ({ worker with queue := others }.process packet)
  | stop
      (others : List Message)
      (running : worker.stage = .running)
      (front : worker.queue = .stop :: others) :
      ConsumeCase worker { worker with queue := others, stage := .closing false }
  /-- Without a message, or outside its loop, the thread takes nothing. -/
  | nothing
      (idle : worker.stage ≠ .running ∨ worker.queue = []) :
      ConsumeCase worker worker

theorem consumeCase (worker : Worker σ) :
    ConsumeCase worker worker.consume := by
  unfold consume
  split
  · rename_i packet others running front
    exact .packet packet others running front
  · rename_i others running front
    exact .stop others running front
  · rename_i noPacket noStop
    refine .nothing ?_
    by_cases running : worker.stage = .running
    · refine .inr ?_
      match front : worker.queue with
      | [] => rfl
      | .packet packet :: others => exact absurd front (noPacket packet others running)
      | .stop :: others => exact absurd front (noStop others running)
    · exact .inl running

/-- Outside its loop a thread takes nothing. -/
theorem consume_of_not_running
    {worker : Worker σ}
    (outside : worker.stage ≠ .running) :
    worker.consume = worker := by
  have taken := worker.consumeCase
  generalize worker.consume = next at taken ⊢
  cases taken with
  | packet packet others running front => exact absurd running outside
  | stop others running front => exact absurd running outside
  | nothing idle => rfl

/-- A thread outside its loop takes nothing, however often it is asked to. -/
theorem consumeMany_of_not_running
    {worker : Worker σ}
    (outside : worker.stage ≠ .running)
    (count : Nat) :
    worker.consumeMany count = worker := by
  induction count with
  | zero => rfl
  | succ count inductionHypothesis =>
      rw [consumeMany, consume_of_not_running outside, inductionHypothesis]

/-- Closing lets the handler finish and discards what is still queued. -/
theorem close_eq
    {worker : Worker σ}
    {faulted : Bool}
    (closing : worker.stage = .closing faulted) :
    worker.close =
      { worker with
        state := (worker.handler.finish worker.state).1
        stage :=
          if (worker.handler.finish worker.state).2.isPanic then .lost else .exited
        accepting := false
        alive := false
        queue := []
        notifications :=
          worker.notifications ++
            (worker.handler.finish worker.state).2.finalReports worker.name faulted } := by
  rcases finished : worker.handler.finish worker.state with ⟨state, outcome⟩
  simp only [close, closing, finished]
  cases outcome with
  | done => simp [HandlerOutcome.isPanic, HandlerOutcome.finalReports]
  | panicked message => simp [HandlerOutcome.isPanic, HandlerOutcome.finalReports]
  | failed error =>
      cases faulted <;> simp [HandlerOutcome.isPanic, HandlerOutcome.finalReports, notify]

theorem closed_of_closing
    {worker : Worker σ}
    {faulted : Bool}
    (closing : worker.stage = .closing faulted) :
    worker.close.hasLeft = true ∧ worker.close.isOpen = false := by
  rw [close_eq closing, hasLeft, isOpen]
  cases (worker.handler.finish worker.state).2.isPanic <;> exact ⟨rfl, rfl⟩

/-- A thread closes only after it has left its loop, and only once. -/
theorem close_of_not_closing
    {worker : Worker σ}
    (outside : ∀ faulted, worker.stage ≠ .closing faulted) :
    worker.close = worker := by
  unfold close
  split
  · rename_i faulted closing
    exact absurd closing (outside faulted)
  · rfl

/-- Until the owner joins it, a worker that was started has a thread. -/
theorem hasThread_of_started
    {worker : Worker σ}
    (started : worker.stage ≠ .fresh)
    (unjoined : worker.joined = false) :
    worker.hasThread = true := by
  simp only [hasThread, unjoined, bne_iff_ne.mpr started, Bool.not_false, Bool.and_self]

/-- An owner that joins an exited thread gets the state of its handler, once. -/
theorem join_of_exited
    {worker : Worker σ}
    (exited : worker.stage = .exited)
    (unjoined : worker.joined = false) :
    worker.join = ({ worker with joined := true }, some worker.state) := by
  have held : worker.hasThread = true := hasThread_of_started (by simp [exited]) unjoined
  simp only [join, held, exited, if_true]

/-- Stopping a thread that has not closed its queue puts the stop message behind everything else. -/
theorem stop_of_isOpen
    {worker : Worker σ}
    (held : worker.hasThread = true)
    (isOpen : worker.isOpen = true) :
    worker.stop = { worker with accepting := false, queue := worker.queue ++ [.stop] } := by
  have stillOpen : worker.refuse.isOpen = true := isOpen
  rw [stop, if_pos held, sendStop, if_pos stillOpen]
  rfl

end Worker

end DroneSession
