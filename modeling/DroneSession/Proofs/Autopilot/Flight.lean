import DroneSession.Autopilot.Loop
import DroneSession.Proofs.Autopilot.Coherence

namespace DroneSession

/-!
# Flights

A flight is a finite sequence of calls to a deck and of undisturbed iterations of its control loop,
one after another.  One client stays bound, takes every command and may refuse actions; between two
iterations it may have received any record.  The lemmas say what an operation does to the autopilot
and to the last command of the client, which is all that later modules need of a deck.
-/

/-- What is done to a deck. -/
inductive FlightOperation where
  | enqueue (objective : Objective)
  | loadMission (mission : Mission)
  | clear
  | setActive (active : Bool)
  /-- An iteration of the loop, the latest record and how the client answers actions in it. -/
  | step
      (now : Instant)
      (record : Option NavigationRecord)
      (actionFault : Option StreamFault)

namespace Client

/-- The flight commands that a client was sent, in order. -/
def commands (client : Client) : List FlightCommand :=
  client.calls.filterMap fun call =>
    match call with
    | .command command => some command
    | .action _ => none

/-- The flight command that a client was sent last. -/
def lastCommand? (client : Client) : Option FlightCommand :=
  client.commands.getLast?

/-- A client flies the command of a tick, if the tick has one, or else goes on as before. -/
theorem lastCommand?_append_calls
    (client : Client)
    (output : TickOutput) :
    lastCommand? { client with calls := client.calls ++ output.calls } =
      output.command.or client.lastCommand? := by
  rcases output with ⟨command, action, events⟩
  cases command <;> cases action <;>
    simp [lastCommand?, commands, TickOutput.calls]

end Client

namespace TickOutput

/--
What a client is called with for a tick: the action, then the command, and if that is refused one
hover action.
-/
def deliveries
    (output : TickOutput)
    (commandFault : Option StreamFault) :
    List ClientCall :=
  output.calls ++
    if output.command.isSome && commandFault.isSome then
      [.action .hover]
    else
      []

/-- A client that takes commands is called with what the tick wants, and nothing else. -/
theorem deliveries_none (output : TickOutput) :
    output.deliveries none = output.calls := by
  simp [deliveries]

end TickOutput

namespace FlightDeck

/-- The deck with a client that has received a record and answers actions in a given way. -/
def observe
    (deck : FlightDeck)
    (record : Option NavigationRecord)
    (actionFault : Option StreamFault) :
    FlightDeck :=
  { deck with
    client :=
      deck.client.map fun client =>
        { client with
          record := record
          actionFault := actionFault } }

/-- The deck after an operation; a mission that is refused changes nothing. -/
def perform
    (deck : FlightDeck) :
    FlightOperation → FlightDeck
  | .enqueue objective => deck.withAutopilot fun autopilot => autopilot.enqueue objective
  | .loadMission mission =>
      match deck.loadMission mission with
      | .ok (loaded, _) => loaded
      | .error _ => deck
  | .clear => deck.withAutopilot Autopilot.clear
  | .setActive active => deck.setActive active
  | .step now record actionFault => (deck.observe record actionFault).step now

/-- The deck after a flight. -/
def fly
    (deck : FlightDeck) :
    List FlightOperation → FlightDeck
  | [] => deck
  | operation :: operations => (deck.perform operation).fly operations

/-- A running deck whose client has received nothing yet. -/
def ready : FlightDeck where
  autopilot := .start
  client := some (.willing none)
  stage := .waiting
  running := true
  notifications := []

/-- A deck that was created, bound and started is ready. -/
theorem ready_of_create
    {interval : Duration}
    (positive : interval.nanoseconds ≠ 0) :
    (do
      let deck ← create interval
      (deck.bind (.willing none)).start) =
      .ok ready := by
  simp [create, positive, bind, unbind, start, ready, Except.bind, Bind.bind]

theorem fly_append
    (deck : FlightDeck)
    (first second : List FlightOperation) :
    deck.fly (first ++ second) = (deck.fly first).fly second := by
  induction first generalizing deck with
  | nil =>
      rfl
  | cons operation rest inductionHypothesis =>
      exact inductionHypothesis (deck.perform operation)

/-- The last operation of a flight acts on the deck that the others have left. -/
theorem fly_concat
    (deck : FlightDeck)
    (operations : List FlightOperation)
    (operation : FlightOperation) :
    deck.fly (operations ++ [operation]) = (deck.fly operations).perform operation :=
  deck.fly_append operations [operation]

/-- The flight command that the bound client was sent last. -/
def lastCommand? (deck : FlightDeck) : Option FlightCommand :=
  deck.client.bind Client.lastCommand?

/-- No iteration is under way, and the bound client takes every command. -/
structure Steady (deck : FlightDeck) : Prop where
  waiting : deck.stage = .waiting
  takesCommands :
    ∃ client, deck.client = some client ∧ client.commandFault = none

/-- The calls of a tick all go to the bound client, which takes every command. -/
theorem finishCalls_of_calls
    {deck : FlightDeck}
    {client : Client}
    {output : TickOutput}
    (calling : deck.stage = .calling .bound output.calls)
    (bound : deck.client = some client) :
    deck.finishCalls =
      { deck with
        client :=
          some { client with calls := client.calls ++ output.deliveries client.commandFault }
        stage := .waiting } := by
  rcases output with ⟨command, action, events⟩
  rcases client with ⟨record, commandFault, actionFault, calls⟩
  cases command <;> cases action <;> cases commandFault <;> cases actionFault <;>
    simp_all [TickOutput.calls, TickOutput.deliveries, finishCalls, callNext, callHeld, call,
      Client.call]

/-- An iteration of the loop ticks the autopilot and sends the client what the tick wants. -/
theorem step_of_client
    (deck : FlightDeck)
    (client : Client)
    (waiting : deck.stage = .waiting)
    (bound : deck.client = some client)
    (now : Instant) :
    deck.step now =
      { deck with
        autopilot := (deck.autopilot.tick now client.record).1
        client :=
          some
            { client with
              calls :=
                client.calls ++
                  (deck.autopilot.tick now client.record).2.deliveries client.commandFault }
        notifications :=
          deck.notifications ++
            (deck.autopilot.tick now client.record).2.events.map Notification.autopilot } := by
  have ticked :
      deck.snapshot.tick now =
        { deck with
          autopilot := (deck.autopilot.tick now client.record).1
          stage := .calling .bound (deck.autopilot.tick now client.record).2.calls
          notifications :=
            deck.notifications ++
              (deck.autopilot.tick now client.record).2.events.map Notification.autopilot } := by
    simp [snapshot, waiting, bound, tick, heldRecord]
  rw [step, ticked, waiting]
  exact finishCalls_of_calls rfl bound

/-! ## Rebinding -/

/-- A call to a client that is not bound any more changes nothing but the iteration. -/
theorem exists_callNext_of_former
    {deck : FlightDeck}
    {client : Client}
    {call : ClientCall}
    {others : List ClientCall}
    (calling : deck.stage = .calling (.former client) (call :: others)) :
    ∃ former more, deck.callNext = { deck with stage := .calling (.former former) more } := by
  simp only [callNext, calling]
  cases call with
  | action action => exact ⟨_, _, rfl⟩
  | command command =>
      simp only [callHeld]
      cases (client.call (.command command)).2 <;> exact ⟨_, _, rfl⟩

/-- An iteration that works with another client leaves the bound one alone. -/
theorem callNext_of_not_bound
    {deck : FlightDeck}
    (apart : ∀ calls, deck.stage ≠ .calling .bound calls) :
    deck.callNext.client = deck.client ∧
      ∀ calls, deck.callNext.stage ≠ .calling .bound calls := by
  cases stage : deck.stage with
  | waiting => simp [callNext, stage]
  | snapshotted held => simp [callNext, stage]
  | calling held calls =>
      cases calls with
      | nil => simp [callNext, stage]
      | cons call others =>
          cases held with
          | bound => exact absurd stage (apart _)
          | former client =>
              obtain ⟨former, more, called⟩ := exists_callNext_of_former stage
              simp [called]

/-- A client that is bound while an iteration is under way is not called by that iteration. -/
theorem client_finishCalls_bind
    {deck : FlightDeck}
    (bound : deck.client.isSome = true)
    (other : Client) :
    (deck.bind other).finishCalls.client = some other := by
  obtain ⟨client, same⟩ := Option.isSome_iff_exists.mp bound
  have apart : ∀ calls, (deck.bind other).stage ≠ .calling .bound calls := by
    intro calls
    rw [bind, unbind, same]
    cases deck.stage with
    | waiting => simp [LoopStage.release]
    | snapshotted held => rcases held with _ | (_ | former) <;> simp [LoopStage.release]
    | calling held more => cases held <;> simp [LoopStage.release]
  have first := callNext_of_not_bound apart
  have second := callNext_of_not_bound first.2
  have third := callNext_of_not_bound second.2
  have fourth := callNext_of_not_bound third.2
  rw [finishCalls, fourth.1, third.1, second.1, first.1]
  rfl

/-! ## Steady decks -/

namespace Steady

/-- A deck that is ready is steady. -/
theorem ready : Steady FlightDeck.ready where
  waiting := rfl
  takesCommands := ⟨.willing none, rfl, rfl⟩

theorem withAutopilot
    {deck : FlightDeck}
    (steady : deck.Steady)
    (change : Autopilot → Autopilot) :
    (deck.withAutopilot change).Steady :=
  ⟨steady.waiting, steady.takesCommands⟩

end Steady

/-- What an iteration of the loop leaves behind, seen from the autopilot and the client. -/
theorem perform_step
    {deck : FlightDeck}
    (steady : deck.Steady)
    (now : Instant)
    (record : Option NavigationRecord)
    (actionFault : Option StreamFault) :
    let ticked := deck.autopilot.tick now record
    let next := deck.perform (.step now record actionFault)
    next.Steady ∧
      next.autopilot = ticked.1 ∧
      next.lastCommand? = ticked.2.command.or deck.lastCommand? ∧
      next.notifications =
        deck.notifications ++ ticked.2.events.map Notification.autopilot := by
  obtain ⟨client, bound, takes⟩ := steady.takesCommands
  let answering := { client with record := record, actionFault := actionFault }
  have stepped :=
    step_of_client (deck.observe record actionFault) answering
      steady.waiting (by simp [observe, bound, answering]) now
  rw [takes, TickOutput.deliveries_none] at stepped
  have before : deck.lastCommand? = answering.lastCommand? := by
    simp [lastCommand?, bound, answering, Client.lastCommand?, Client.commands]
  intro ticked next
  have shape : next = (deck.observe record actionFault).step now :=
    rfl
  rw [shape, stepped]
  refine ⟨⟨steady.waiting, _, rfl, rfl⟩, rfl, ?_, rfl⟩
  rw [before]
  exact Client.lastCommand?_append_calls answering ticked.2

/-- Deactivating a steady deck leaves its drone hovering. -/
theorem perform_deactivate
    {deck : FlightDeck}
    (steady : deck.Steady) :
    let next := deck.perform (.setActive false)
    next.Steady ∧
      next.autopilot = deck.autopilot.setActive false ∧
      next.lastCommand? = some .hover := by
  obtain ⟨client, bound, takes⟩ := steady.takesCommands
  intro next
  have shape :
      next =
        { deck with
          autopilot := deck.autopilot.setActive false
          client := some { client with calls := client.calls ++ [.command .hover] } } := by
    simp [next, perform, setActive, FlightDeck.withAutopilot, hoverClient, call, bound,
      Client.call, takes]
  rw [shape]
  refine ⟨⟨steady.waiting, _, rfl, takes⟩, rfl, ?_⟩
  simp [lastCommand?, Client.lastCommand?, Client.commands]

/-- A mission replaces the queue if all its steps turn into objectives. -/
theorem perform_loadMission
    (deck : FlightDeck)
    (mission : Mission) :
    deck.perform (.loadMission mission) =
      match mission.objectives with
      | .ok objectives =>
          deck.withAutopilot fun autopilot => autopilot.clear.enqueueAll objectives
      | .error _ => deck := by
  cases converted : mission.objectives <;>
    simp [perform, loadMission, Autopilot.loadMission, converted, Except.map,
      FlightDeck.withAutopilot]

/-- No operation of a flight unbinds the client or leaves an iteration under way. -/
theorem Steady.perform
    {deck : FlightDeck}
    (steady : deck.Steady)
    (operation : FlightOperation) :
    (deck.perform operation).Steady := by
  cases operation with
  | enqueue objective =>
      exact steady.withAutopilot fun autopilot => autopilot.enqueue objective
  | loadMission mission =>
      rw [perform_loadMission]
      split
      · exact steady.withAutopilot _
      · exact steady
  | clear =>
      exact steady.withAutopilot _
  | setActive active =>
      cases active with
      | false =>
          exact (perform_deactivate steady).1
      | true =>
          exact steady.withAutopilot fun autopilot => autopilot.setActive true
  | step now record actionFault =>
      exact (perform_step steady now record actionFault).1

/-- After every flight a steady deck is steady again. -/
theorem Steady.fly
    {deck : FlightDeck}
    (steady : deck.Steady)
    (operations : List FlightOperation) :
    (deck.fly operations).Steady := by
  induction operations generalizing deck with
  | nil =>
      exact steady
  | cons operation rest inductionHypothesis =>
      exact inductionHypothesis (steady.perform operation)

/-- No operation of a flight makes the autopilot of a deck incoherent. -/
theorem coherent_perform
    {deck : FlightDeck}
    (steady : deck.Steady)
    (coherent : deck.autopilot.Coherent)
    (operation : FlightOperation) :
    (deck.perform operation).autopilot.Coherent := by
  cases operation with
  | enqueue objective =>
      exact coherent.enqueue objective
  | loadMission mission =>
      rw [perform_loadMission]
      split
      · exact coherent.clear.enqueueAll _
      · exact coherent
  | clear =>
      exact coherent.clear
  | setActive active =>
      cases active with
      | false =>
          rw [(perform_deactivate steady).2.1]
          exact coherent.setActive false
      | true =>
          exact coherent.setActive true
  | step now record actionFault =>
      rw [(perform_step steady now record actionFault).2.1]
      exact coherent.tick now record

/-- After every flight the autopilot of a deck is coherent. -/
theorem coherent_fly
    {deck : FlightDeck}
    (steady : deck.Steady)
    (coherent : deck.autopilot.Coherent)
    (operations : List FlightOperation) :
    (deck.fly operations).autopilot.Coherent := by
  induction operations generalizing deck with
  | nil =>
      exact coherent
  | cons operation rest inductionHypothesis =>
      exact
        inductionHypothesis (steady.perform operation)
          (coherent_perform steady coherent operation)

end FlightDeck

end DroneSession
