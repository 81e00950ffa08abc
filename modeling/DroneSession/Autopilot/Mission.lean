import DroneSession.Autopilot.Objective

namespace DroneSession

/-!
# Missions

A mission is a list of steps in the form in which they are written down.  Each step turns into an
objective; a mission whose steps do not all turn into objectives is refused as a whole.
-/

/-- A step of a mission as a document holds it. -/
structure MissionStep where
  label : Option String
  milliseconds : UInt64
  action : Option DiscreteAction
  intents : List Intent
  earlyExit : Bool

/-- A list of steps. -/
structure Mission where
  steps : List MissionStep

namespace MissionStep

/-- A step of intents with a budget and no label. -/
def ofIntents
    (milliseconds : UInt64)
    (intents : List Intent) :
    MissionStep where
  label := none
  milliseconds := milliseconds
  action := none
  intents := intents
  earlyExit := false

/-- A step of an action with a budget and no label. -/
def ofAction
    (milliseconds : UInt64)
    (action : DiscreteAction) :
    MissionStep where
  label := none
  milliseconds := milliseconds
  action := some action
  intents := []
  earlyExit := false

/-- What a step without its label turns into. -/
def toUnlabelled (step : MissionStep) : Except SessionError Objective :=
  let budget := Duration.ofMilliseconds step.milliseconds
  match step.action, step.intents with
  | some action, [] => .ok (.ofAction budget action)
  | some _, _ :: _ =>
      .error (.configuration "a mission step has either an action or intents, not both")
  | none, intents =>
      (Objective.ofIntents budget intents).map fun objective =>
        objective.withEarlyExit step.earlyExit

/-- The objective that a step turns into, with the label of the step if it has one. -/
def toObjective (step : MissionStep) : Except SessionError Objective :=
  step.toUnlabelled.map fun objective =>
    match step.label with
    | none => objective
    | some label => objective.withLabel label

end MissionStep

namespace Mission

/-- The objectives of all steps, or the failure of the first step that has none. -/
def objectives (mission : Mission) : Except SessionError (List Objective) :=
  mission.steps.mapM MissionStep.toObjective

/--
A mission to try things out: look around if the drone flies already, otherwise trim and take off;
then hold one metre for three seconds and land.
-/
def demo (record : NavigationRecord) : Mission :=
  let heading := record.yaw
  let turn := NavigationRecord.halfTurn / 5.0
  let look (target : Float32) : MissionStep :=
    .ofIntents 2000 [.heading (wrapAngle target) true]
  let opening : List MissionStep :=
    if record.isFlying then
      [look (heading + turn), look (heading - turn), look heading]
    else
      [.ofAction 1000 .flatTrim, .ofAction 3500 .takeoff]
  { steps :=
      opening
        ++ [ .ofIntents 3000 [.velocityX 0.0, .velocityY 0.0, .altitude 1.0],
             .ofAction 5000 .land ] }

end Mission

end DroneSession
