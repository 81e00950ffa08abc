import DroneSession.Time
import DroneSession.Autopilot.Intent
import DroneSession.Error
import DroneSession.Text.Quoted

namespace DroneSession

/-!
# Objectives

An objective is a unit of flight with a time budget.  It either sends one discrete action or drives
axes through its goals, at most one for each axis.
-/

/-- What an objective does: send one action, or steer by its goals. -/
inductive ObjectiveTask where
  | act (action : DiscreteAction)
  | steer (goals : List AxisGoal)

/-- A unit of flight. -/
structure Objective where
  givenLabel : Option String
  budget : Duration
  task : ObjectiveTask
  /-- Whether the objective ends as soon as all its goals are satisfied. -/
  earlyExit : Bool

/-- What an objective wants in one tick. -/
structure Evaluation where
  command : FlightCommand
  /-- The objective may end before its budget. -/
  complete : Bool

namespace Objective

/-- The axis of the first goal that repeats the axis of an earlier one. -/
def conflict?
    (seen : List Axis) :
    List AxisGoal → Option Axis
  | [] => none
  | goal :: goals =>
      if goal.axis ∈ seen then
        some goal.axis
      else
        conflict? (goal.axis :: seen) goals

/-- An objective that drives axes; no axis may be driven twice. -/
def ofGoals
    (budget : Duration)
    (goals : List AxisGoal) :
    Except SessionError Objective :=
  match conflict? [] goals with
  | some axis => .error (.axisConflict axis)
  | none =>
      .ok
        { givenLabel := none
          budget := budget
          task := .steer goals
          earlyExit := false }

/-- An objective that drives axes by built-in intents. -/
def ofIntents
    (budget : Duration)
    (intents : List Intent) :
    Except SessionError Objective :=
  ofGoals budget (intents.map Intent.goal)

/-- An objective that sends an action once and then waits. -/
def ofAction
    (budget : Duration)
    (action : DiscreteAction) :
    Objective where
  givenLabel := none
  budget := budget
  task := .act action
  earlyExit := false

/-- Choose whether the objective may end before its budget. -/
def withEarlyExit
    (objective : Objective)
    (earlyExit : Bool) :
    Objective :=
  { objective with earlyExit := earlyExit }

/-- Give an objective a label of its own. -/
def withLabel
    (objective : Objective)
    (label : String) :
    Objective :=
  { objective with givenLabel := some label }

/-- The action that the objective sends, if it sends one. -/
def action? (objective : Objective) : Option DiscreteAction :=
  match objective.task with
  | .act action => some action
  | .steer _ => none

/-- The goals of an objective; one that sends an action has none. -/
def goals (objective : Objective) : List AxisGoal :=
  match objective.task with
  | .act _ => []
  | .steer goals => goals

/-- The label of the objective, or one that names what it does. -/
def label (objective : Objective) : String :=
  match objective.givenLabel, objective.task with
  | some label, _ => label
  | none, .act action => action.name
  | none, .steer [] => "neutral"
  | none, .steer goals => "+".intercalate (goals.map fun goal => goal.axis.name)

/-- Put what the goals want into one command; axes without a goal are neutral. -/
def evaluate
    (objective : Objective)
    (record : Option NavigationRecord) :
    Evaluation :=
  let outputs := objective.goals.map fun goal => (goal.axis, goal.evaluate record)
  { command :=
      outputs.foldl
        (fun command (axis, output) => command.withAxis axis output.value)
        FlightCommand.hover
    complete :=
      objective.earlyExit
        && !outputs.isEmpty
        && outputs.all fun (_, output) => output.satisfied }

/-- The text in which an objective is shown to developers. -/
def inspect (objective : Objective) : String :=
  let action :=
    match objective.action? with
    | none => "None"
    | some action => "Some(" ++ action.name ++ ")"
  "Objective \x7b label: " ++ Text.quoted objective.label
    ++ ", budget: " ++ objective.budget.inspect
    ++ ", intents: [" ++ ", ".intercalate (objective.goals.map AxisGoal.inspect) ++ "]"
    ++ ", action: " ++ action
    ++ ", early_exit: " ++ (if objective.earlyExit then "true" else "false")
    ++ " \x7d"

end Objective

end DroneSession
