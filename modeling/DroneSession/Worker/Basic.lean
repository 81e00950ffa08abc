import DroneSession.Error
import DroneSession.Packet
import DroneSession.Worker.Notification

namespace DroneSession

/-!
# Packet workers

A worker owns one thread and one unbounded queue.  Producers enqueue without waiting, and the thread
hands the packets to a handler one after another.  Every operation that threads can interleave is a
function on the state of the worker:

* a producer reads the accepting flag (`Worker.accepting`) and then sends (`Worker.send`);
* a caller that stops the worker clears the flag (`Worker.refuse`) and then sends the stop message
  (`Worker.sendStop`);
* the thread takes one message at a time (`Worker.consume`) and closes once (`Worker.close`).

`Worker.settle` runs the thread until it waits or has exited.

A system that refuses to create the thread is left out: of the failures of a start only that of a
worker started before is modelled.
-/

/-- How a handler dealt with a packet or with the end of its queue. -/
inductive HandlerOutcome where
  | done
  | failed (error : SessionError)
  /-- The handler panicked, with a message if what it threw was a text. -/
  | panicked (message : Option String)
  deriving Repr, DecidableEq

/-- What is reported of a panic. -/
def panicText (message : Option String) : String :=
  message.getD "non-string panic payload"

/-- The work of a worker, as a function of a state of its own. -/
structure Handler (σ : Type) where
  handle : σ → Packet → σ × HandlerOutcome
  /-- Called once after the last packet. -/
  finish : σ → σ × HandlerOutcome

/-- What lies in the queue of a worker. -/
inductive Message where
  | packet (packet : Packet)
  | stop
  deriving DecidableEq

/-- How far the thread of a worker has come. -/
inductive ThreadStage where
  /-- The worker was not started yet. -/
  | fresh
  | running
  /-- The thread has left its loop, because of a fatal failure or because it was stopped. -/
  | closing (faulted : Bool)
  | exited
  /-- The handler panicked while it finished, and its state is lost. -/
  | lost
  deriving Repr, DecidableEq

/-- A worker and everything that its producers, its owner and its thread share. -/
structure Worker (σ : Type) where
  name : String
  handler : Handler σ
  state : σ
  stage : ThreadStage
  /-- Whether producers may enqueue. -/
  accepting : Bool
  /-- Whether the thread has not exited. -/
  alive : Bool
  /-- Whether the owner has taken the handler back. -/
  joined : Bool
  queue : List Message
  notifications : List Notification

namespace Worker

variable {σ : Type}

/-- A worker that was not started. -/
def create
    (name : String)
    (handler : Handler σ)
    (state : σ) :
    Worker σ where
  name := name
  handler := handler
  state := state
  stage := .fresh
  accepting := false
  alive := false
  joined := false
  queue := []
  notifications := []

/-- Whether the owner still holds a thread of the worker. -/
def hasThread (worker : Worker σ) : Bool :=
  worker.stage != .fresh && !worker.joined

/-- Start the thread, which a worker does at most once. -/
def start (worker : Worker σ) : Except SessionError (Worker σ) :=
  if worker.stage = .fresh then
    .ok
      { worker with
        stage := .running
        accepting := true
        alive := true }
  else
    .error (.workerState worker.name "already started")

/-- Whether the queue is open, which it is until the thread closes it. -/
def isOpen (worker : Worker σ) : Bool :=
  match worker.stage with
  | .exited => false
  | .lost => false
  | _ => true

/-- Send a packet to the queue, also to one that the thread no longer reads but has not closed. -/
def send
    (worker : Worker σ)
    (packet : Packet) :
    Worker σ × Bool :=
  if worker.isOpen then
    ({ worker with queue := worker.queue ++ [.packet packet] }, true)
  else
    (worker, false)

/-- Queue a packet; false if the worker does not accept it. -/
def enqueue
    (worker : Worker σ)
    (packet : Packet) :
    Worker σ × Bool :=
  if worker.accepting then
    worker.send packet
  else
    (worker, false)

/-- Clear the accepting flag. -/
def refuse (worker : Worker σ) : Worker σ :=
  { worker with accepting := false }

/-- Send the stop message to the queue, unless the thread has closed it. -/
def sendStop (worker : Worker σ) : Worker σ :=
  if worker.isOpen then
    { worker with queue := worker.queue ++ [.stop] }
  else
    worker

/-- Refuse new packets and let the thread exit behind those that are queued. -/
def stop (worker : Worker σ) : Worker σ :=
  if worker.hasThread then
    worker.refuse.sendStop
  else
    worker

/-- Report something. -/
def notify
    (worker : Worker σ)
    (notification : Notification) :
    Worker σ :=
  { worker with notifications := worker.notifications ++ [notification] }

/--
Hand one packet to the handler.  A fatal failure leaves the loop, an absorbed one is silent, and any
other failure or panic is reported.
-/
def process
    (worker : Worker σ)
    (packet : Packet) :
    Worker σ :=
  let (state, outcome) := worker.handler.handle worker.state packet
  let worker := { worker with state := state }
  match outcome with
  | .done => worker
  | .panicked message => worker.notify (.workerFault worker.name (panicText message))
  | .failed error =>
      if error.isAbsorbed then
        worker
      else if error.isFatal then
        let stopped := worker.refuse.notify (.workerStopped worker.name error.message)
        { stopped with stage := .closing true }
      else
        worker.notify (.workerFault worker.name error.message)

/-- Take one message from the queue. -/
def consume (worker : Worker σ) : Worker σ :=
  match worker.stage, worker.queue with
  | .running, .packet packet :: queue => { worker with queue := queue }.process packet
  | .running, .stop :: queue => { worker with queue := queue, stage := .closing false }
  | _, _ => worker

/-- Discard what is still queued, let the handler finish and exit. -/
def close (worker : Worker σ) : Worker σ :=
  match worker.stage with
  | .closing faulted =>
      let (state, outcome) := worker.handler.finish worker.state
      let closed :=
        { worker with
          state := state
          accepting := false
          alive := false
          queue := []
          stage := .exited }
      match outcome with
      | .done => closed
      | .panicked _ => { closed with stage := .lost }
      | .failed error =>
          if faulted then
            closed
          else
            closed.notify (.workerStopped worker.name error.message)
  | _ => worker

/-- Take up to `count` messages. -/
def consumeMany
    (worker : Worker σ) :
    (count : Nat) → Worker σ
  | 0 => worker
  | count + 1 => worker.consume.consumeMany count

/-- Let the thread run until its queue is empty or it has exited. -/
def settle (worker : Worker σ) : Worker σ :=
  (worker.consumeMany worker.queue.length).close

/-- Take the handler back from a thread that has exited. -/
def join (worker : Worker σ) : Worker σ × Option σ :=
  if worker.hasThread then
    match worker.stage with
    | .exited => ({ worker with joined := true }, some worker.state)
    | .lost => ({ worker with joined := true }, none)
    | _ => (worker, none)
  else
    (worker, none)

/-- Stop the worker, let it drain its queue and take the handler back. -/
def shutdown (worker : Worker σ) : Worker σ × Option σ :=
  worker.stop.settle.join

end Worker

end DroneSession
