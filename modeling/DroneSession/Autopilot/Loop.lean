import DroneSession.Autopilot.Basic
import DroneSession.Worker.Notification

namespace DroneSession

/-!
# Flying with a client

A control loop ticks the autopilot and sends what it wants to the bound client.  The loop and its
callers interleave at the operations of `FlightDeck`:

* the loop reads the bound client (`snapshot`), ticks the autopilot (`tick`) and makes the calls of
  the tick one by one (`callNext`), all to the client that it has read;
* a caller that binds or detaches a client does so for the iterations to come (`bind`, `unbind`);
* a caller that deactivates clears the active flag (`setActive`) and then sends a hover command to
  the client (`hoverClient`).

`FlightDeck.step` is one undisturbed iteration of the loop.  That the system cannot start the thread
of the loop, or its clock, is left out.
-/

/-- A call of a client. -/
inductive ClientCall where
  | command (command : FlightCommand)
  | action (action : DiscreteAction)

/-- The link to a drone: its latest record, whether it takes calls, and what it was asked to do. -/
structure Client where
  record : Option NavigationRecord
  commandFault : Option StreamFault
  actionFault : Option StreamFault
  /-- All calls in order, those that were refused too. -/
  calls : List ClientCall

namespace Client

/-- A client that has a record, takes every call and was not called yet. -/
def willing (record : Option NavigationRecord) : Client where
  record := record
  commandFault := none
  actionFault := none
  calls := []

/-- Call a client, which keeps the call also if it refuses it. -/
def call
    (client : Client)
    (call : ClientCall) :
    Client × Except SessionError Unit :=
  let called := { client with calls := client.calls ++ [call] }
  match call, client.commandFault, client.actionFault with
  | .command _, some fault, _ => (called, .error (.sinkFailure "send command" fault))
  | .action _, _, some fault => (called, .error (.sinkFailure "send action" fault))
  | _, _, _ => (called, .ok ())

/-- Send a command to a client. -/
def sendCommand
    (client : Client)
    (command : FlightCommand) :
    Client × Except SessionError Unit :=
  client.call (.command command)

end Client

/-- The calls that one tick makes: the action first and then the command. -/
def TickOutput.calls (output : TickOutput) : List ClientCall :=
  output.action.toList.map ClientCall.action ++ output.command.toList.map ClientCall.command

/-- The client that an iteration of the loop works with. -/
inductive HeldClient where
  /-- The one that is bound. -/
  | bound
  /-- One that was bound when the iteration began, and has been replaced or detached since. -/
  | former (client : Client)

/-- How far the loop has come with an iteration. -/
inductive LoopStage where
  | waiting
  /-- The bound client was read, if there was one. -/
  | snapshotted (held : Option HeldClient)
  /-- The calls of the last tick that are still to be made to the client that was read. -/
  | calling (held : HeldClient) (calls : List ClientCall)

/-- An iteration keeps the client that it has read when another one is bound, or none. -/
def LoopStage.release
    (stage : LoopStage)
    (client : Client) :
    LoopStage :=
  match stage with
  | .snapshotted (some .bound) => .snapshotted (some (.former client))
  | .calling .bound calls => .calling (.former client) calls
  | stage => stage

/-- The autopilot, the bound client and the control loop. -/
structure FlightDeck where
  autopilot : Autopilot
  client : Option Client
  stage : LoopStage
  /-- Whether the control loop was started and not stopped since. -/
  running : Bool
  notifications : List Notification

namespace FlightDeck

/-- The name under which the control loop reports. -/
def workerName : String :=
  "autopilot"

/-- A deck without a client; the time between two ticks must not be zero. -/
def create (interval : Duration) : Except SessionError FlightDeck :=
  if interval.nanoseconds = 0 then
    .error (.configuration "autopilot tick interval must be non-zero")
  else
    .ok
      { autopilot := .start
        client := none
        stage := .waiting
        running := false
        notifications := [] }

/-- Start the control loop. -/
def start (deck : FlightDeck) : Except SessionError FlightDeck :=
  if deck.running then
    .error (.workerState workerName "already running")
  else
    .ok { deck with running := true }

/--
Stop the control loop after its current iteration and join its thread.  Until the thread has exited,
a start is refused.
-/
def stop (deck : FlightDeck) : FlightDeck :=
  { deck with running := false }

/-- Detach the client. -/
def unbind (deck : FlightDeck) : FlightDeck :=
  { deck with
    client := none
    stage := deck.client.elim deck.stage deck.stage.release }

/-- Attach a client in place of any other. -/
def bind
    (deck : FlightDeck)
    (client : Client) :
    FlightDeck :=
  { deck.unbind with client := some client }

/-- The deck after a change of its autopilot alone. -/
def withAutopilot
    (deck : FlightDeck)
    (change : Autopilot → Autopilot) :
    FlightDeck :=
  { deck with autopilot := change deck.autopilot }

/-- Call the bound client. -/
def call
    (deck : FlightDeck)
    (call : ClientCall) :
    FlightDeck × Except SessionError Unit :=
  match deck.client with
  | none => (deck, .error .unbound)
  | some client =>
      let (client, result) := client.call call
      ({ deck with client := some client }, result)

/-- Call the client of an iteration; what the iteration holds may change by that. -/
def callHeld
    (deck : FlightDeck)
    (held : HeldClient)
    (call : ClientCall) :
    FlightDeck × HeldClient × Except SessionError Unit :=
  match held with
  | .bound =>
      let (deck, result) := deck.call call
      (deck, .bound, result)
  | .former client =>
      let (client, result) := client.call call
      (deck, .former client, result)

/-- The latest record of the client of an iteration. -/
def heldRecord
    (deck : FlightDeck) :
    HeldClient → Option NavigationRecord
  | .bound => deck.client.bind Client.record
  | .former client => client.record

/-- Read the bound client. -/
def snapshot (deck : FlightDeck) : FlightDeck :=
  match deck.stage with
  | .waiting =>
      { deck with stage := .snapshotted (deck.client.map fun _ => HeldClient.bound) }
  | _ => deck

/-- Tick the autopilot; without a client what the tick wants is discarded. -/
def tick
    (deck : FlightDeck)
    (now : Instant) :
    FlightDeck :=
  match deck.stage with
  | .snapshotted held =>
      let (autopilot, output) := deck.autopilot.tick now (held.bind deck.heldRecord)
      { deck with
        autopilot := autopilot
        stage := held.elim .waiting fun held => .calling held output.calls
        notifications := deck.notifications ++ output.events.map Notification.autopilot }
  | _ => deck

/-- Make the next call of a tick; a refused command is followed by a hover action. -/
def callNext (deck : FlightDeck) : FlightDeck :=
  match deck.stage with
  | .calling _ [] => { deck with stage := .waiting }
  | .calling held (call :: others) =>
      let (deck, held, result) := deck.callHeld held call
      match call, result with
      | .command _, .error _ => { deck with stage := .calling held (.action .hover :: others) }
      | _, _ => { deck with stage := .calling held others }
  | _ => deck

/-- Make the calls of a tick, of which there are at most three. -/
def finishCalls (deck : FlightDeck) : FlightDeck :=
  deck.callNext.callNext.callNext.callNext

/-- One undisturbed iteration of the control loop. -/
def step
    (deck : FlightDeck)
    (now : Instant) :
    FlightDeck :=
  (deck.snapshot.tick now).finishCalls

/-- Send a hover command to the bound client, if there is one. -/
def hoverClient (deck : FlightDeck) : FlightDeck :=
  (deck.call (.command .hover)).1

/-- Become active, or become idle and hover. -/
def setActive
    (deck : FlightDeck)
    (active : Bool) :
    FlightDeck :=
  let deck := deck.withAutopilot fun autopilot => autopilot.setActive active
  if active then deck else deck.hoverClient

/-- Replace the queue by the objectives of a mission, and tell how many there are. -/
def loadMission
    (deck : FlightDeck)
    (mission : Mission) :
    Except SessionError (FlightDeck × Nat) :=
  (deck.autopilot.loadMission mission).map fun (autopilot, count) =>
    ({ deck with autopilot := autopilot }, count)

end FlightDeck

end DroneSession
