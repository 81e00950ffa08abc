import DroneSession.Autopilot.Event
import DroneSession.Autopilot.Mission

namespace DroneSession

/-!
# The autopilot

The autopilot owns a queue of objectives and is either idle or active.  It is driven by ticks, which
carry the time and the latest navigation record and say what to send and what has happened.
-/

/-- What one tick wants sent, and what has happened in it. -/
structure TickOutput where
  command : Option FlightCommand
  action : Option DiscreteAction
  events : List AutopilotEvent

namespace TickOutput

/-- The output of a tick that wants nothing. -/
def quiet : TickOutput where
  command := none
  action := none
  events := []

end TickOutput

/-- A view of the autopilot for display. -/
structure AutopilotStatus where
  active : Bool
  pending : Nat
  current : Option String
  elapsed : Option Duration

namespace AutopilotStatus

/-- The values that a screen shows. -/
def fields (status : AutopilotStatus) : List Field :=
  let milliseconds :=
    match status.elapsed with
    | none => 0
    | some elapsed => elapsed.nanoseconds / 1000000 % UInt64.size
  [ .mk "active" (.truth status.active),
    .mk "pending" (.ofUnsigned status.pending),
    .mk "current" (.text (status.current.getD "-")),
    .mk "elapsed_ms" (.ofUnsigned milliseconds) ]

end AutopilotStatus

/-- The queue of objectives and how far the first of them has come. -/
structure Autopilot where
  queue : List Objective
  /-- When the first objective started, once it is in progress. -/
  started : Option Instant
  active : Bool
  /-- An objective in progress was cleared, so the next tick has to send a hover command. -/
  hoverPending : Bool

namespace Autopilot

/-- An idle autopilot without objectives. -/
def start : Autopilot where
  queue := []
  started := none
  active := false
  hoverPending := false

/-- Put an objective at the end of the queue. -/
def enqueue
    (autopilot : Autopilot)
    (objective : Objective) :
    Autopilot :=
  { autopilot with queue := autopilot.queue ++ [objective] }

/-- Put objectives at the end of the queue, one after another. -/
def enqueueAll
    (autopilot : Autopilot)
    (objectives : List Objective) :
    Autopilot :=
  objectives.foldl enqueue autopilot

/--
Drop every objective without an event.  If one was being flown, the next tick sends a hover command
in its place.
-/
def clear (autopilot : Autopilot) : Autopilot where
  queue := []
  started := none
  active := autopilot.active
  hoverPending := autopilot.hoverPending || (autopilot.active && autopilot.started.isSome)

/-- Become active or idle; an objective that is interrupted starts over. -/
def setActive
    (autopilot : Autopilot)
    (active : Bool) :
    Autopilot :=
  if active then
    { autopilot with active := true }
  else
    { autopilot with
      active := false
      started := none
      hoverPending := false }

/-- The objective that has started and not been retired. -/
def inProgress? (autopilot : Autopilot) : Option Objective :=
  match autopilot.started with
  | none => none
  | some _ => autopilot.queue.head?

/-- The view for display at an instant. -/
def status
    (autopilot : Autopilot)
    (now : Instant) :
    AutopilotStatus where
  active := autopilot.active
  pending := autopilot.queue.length
  current := autopilot.inProgress?.map Objective.label
  elapsed := autopilot.started.map fun started => now.since started

/-- Why an objective is retired in a tick, if it is. -/
def retirement?
    (objective : Objective)
    (elapsed : Duration)
    (complete : Bool) :
    Option RetireReason :=
  if objective.budget.nanoseconds ≤ elapsed.nanoseconds then
    some .budgetElapsed
  else if complete then
    some .satisfied
  else
    none

/-- Retire the first objective; without another one the autopilot becomes idle and hovers. -/
def retire
    (autopilot : Autopilot)
    (output : TickOutput)
    (label : String)
    (reason : RetireReason) :
    Autopilot × TickOutput :=
  let queue := autopilot.queue.tail
  let autopilot := { autopilot with queue := queue, started := none }
  let retired := output.events ++ [.retired label reason]
  if queue.isEmpty then
    ( { autopilot with active := false },
      { output with
        command := some .hover
        events := retired ++ [.outOfObjectives] } )
  else
    (autopilot, { output with events := retired })

/-- What a tick sends for an objective, which has just started if `fresh` is set. -/
def drive
    (objective : Objective)
    (fresh : Bool)
    (record : Option NavigationRecord)
    (output : TickOutput) :
    TickOutput × Bool :=
  match objective.action? with
  | some action =>
      if fresh then
        ({ output with command := some .hover, action := some action }, false)
      else
        (output, false)
  | none =>
      let evaluation := objective.evaluate record
      ({ output with command := some evaluation.command }, evaluation.complete)

/-- Go on with the first objective, starting it if it is not in progress. -/
def pursue
    (autopilot : Autopilot)
    (objective : Objective)
    (now : Instant)
    (record : Option NavigationRecord)
    (output : TickOutput) :
    Autopilot × TickOutput :=
  let fresh := autopilot.started.isNone
  let started := autopilot.started.getD now
  let autopilot := { autopilot with started := some started }
  let output :=
    if fresh then
      { output with events := [.started objective.label] }
    else
      output
  let (output, complete) := drive objective fresh record output
  match retirement? objective (now.since started) complete with
  | none => (autopilot, output)
  | some reason => retire autopilot output objective.label reason

/-- One tick: replace a cleared command, fly the first objective, and retire it when that is due. -/
def tick
    (autopilot : Autopilot)
    (now : Instant)
    (record : Option NavigationRecord) :
    Autopilot × TickOutput :=
  if autopilot.active then
    let output :=
      if autopilot.hoverPending then
        { TickOutput.quiet with command := some .hover }
      else
        .quiet
    let autopilot := { autopilot with hoverPending := false }
    match autopilot.queue with
    | [] => (autopilot, output)
    | objective :: _ => pursue autopilot objective now record output
  else
    (autopilot, .quiet)

/-- Replace the queue by the objectives of a mission; a refused mission changes nothing. -/
def loadMission
    (autopilot : Autopilot)
    (mission : Mission) :
    Except SessionError (Autopilot × Nat) :=
  mission.objectives.map fun objectives =>
    (autopilot.clear.enqueueAll objectives, objectives.length)

end Autopilot

end DroneSession
