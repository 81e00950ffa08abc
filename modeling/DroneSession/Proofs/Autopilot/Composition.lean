import Mathlib.Data.List.Forall2
import DroneSession.Autopilot.Mission
import DroneSession.Proofs.Flight.Bounds

namespace DroneSession

/-!
# How objectives are composed

An objective is made by a few constructors, and the steps of missions go through them too.  What
they make either sends an action or drives axes, and drives each axis by one goal; so its command
holds on every axis what the goal of that axis wants, within bounds, and zero where it has none.
-/

namespace Objective

/-- Goals are accepted exactly if they drive different axes that are not driven yet. -/
theorem conflict?_eq_none_iff
    {seen : List Axis}
    {goals : List AxisGoal} :
    conflict? seen goals = none ↔
      (goals.map AxisGoal.axis).Nodup ∧ ∀ goal ∈ goals, goal.axis ∉ seen := by
  induction goals generalizing seen with
  | nil =>
      simp [conflict?]
  | cons goal rest inductionHypothesis =>
      by_cases repeated : goal.axis ∈ seen
      · simp [conflict?, repeated]
      · simp only [conflict?, repeated, if_false, inductionHypothesis, List.map_cons,
          List.nodup_cons, List.mem_cons, List.mem_map, not_or, forall_eq_or_imp]
        grind

/--
An objective of goals is made of those goals and standard settings, if they drive different axes.
-/
theorem ofGoals_eq_ok_iff
    {budget : Duration}
    {goals : List AxisGoal}
    {objective : Objective} :
    ofGoals budget goals = .ok objective ↔
      (goals.map AxisGoal.axis).Nodup ∧
        objective =
          { givenLabel := none
            budget := budget
            task := .steer goals
            earlyExit := false } := by
  have accepted : conflict? [] goals = none ↔ (goals.map AxisGoal.axis).Nodup := by
    simp [conflict?_eq_none_iff]
  rw [← accepted, ofGoals]
  cases conflict? [] goals with
  | none =>
      simp [eq_comm]
  | some axis =>
      simp

/-- What the constructors of objectives make. -/
inductive Constructed : Objective → Prop where
  | ofGoals
      {budget : Duration}
      {goals : List AxisGoal}
      {objective : Objective}
      (accepted : ofGoals budget goals = .ok objective) :
      Constructed objective
  | ofAction
      (budget : Duration)
      (action : DiscreteAction) :
      Constructed (ofAction budget action)
  | withEarlyExit
      {objective : Objective}
      (constructed : Constructed objective)
      (earlyExit : Bool) :
      Constructed (objective.withEarlyExit earlyExit)
  | withLabel
      {objective : Objective}
      (constructed : Constructed objective)
      (label : String) :
      Constructed (objective.withLabel label)

namespace Constructed

variable {objective : Objective}

/-- A constructed objective drives no axis twice. -/
theorem nodup_axes
    (constructed : objective.Constructed) :
    (objective.goals.map AxisGoal.axis).Nodup := by
  induction constructed with
  | ofGoals accepted =>
      obtain ⟨apart, rfl⟩ := ofGoals_eq_ok_iff.mp accepted
      exact apart
  | ofAction budget action =>
      exact List.nodup_nil
  | withEarlyExit constructed earlyExit inductionHypothesis =>
      exact inductionHypothesis
  | withLabel constructed label inductionHypothesis =>
      exact inductionHypothesis

end Constructed

/-- An objective lets a tick end it if it may end early and all its goals are satisfied. -/
theorem evaluate_complete_iff
    {objective : Objective}
    {record : Option NavigationRecord} :
    (objective.evaluate record).complete = true ↔
      objective.earlyExit = true ∧
        objective.goals ≠ [] ∧
        ∀ goal ∈ objective.goals, (goal.evaluate record).satisfied = true := by
  simp [evaluate, and_assoc]

/-! ## The command of an objective -/

section

variable {goals : List AxisGoal} {goal : AxisGoal} {record : Option NavigationRecord}
  {axis : Axis}

/-- What goals turn a command into, one after another. -/
def steered
    (record : Option NavigationRecord)
    (command : FlightCommand)
    (goals : List AxisGoal) :
    FlightCommand :=
  goals.foldl
    (fun command goal => command.withAxis goal.axis (goal.evaluate record).value)
    command

/-- The command of an objective is what its goals make of hovering. -/
theorem command_evaluate
    (objective : Objective)
    (record : Option NavigationRecord) :
    (objective.evaluate record).command = steered record .hover objective.goals := by
  simp [evaluate, steered, List.foldl_map]

/-- Goals keep a command safe, whatever they want and whichever axes they share. -/
theorem isSafe_steered
    {command : FlightCommand}
    (safe : command.IsSafe) :
    (steered record command goals).IsSafe := by
  induction goals generalizing command with
  | nil =>
      exact safe
  | cons goal rest inductionHypothesis =>
      exact inductionHypothesis (safe.withAxis goal.axis (goal.evaluate record).value)

/-- An axis that no goal drives is left alone. -/
theorem axis_steered_of_undriven
    (undriven : ∀ goal ∈ goals, goal.axis ≠ axis)
    (command : FlightCommand) :
    (steered record command goals).axis axis = command.axis axis := by
  induction goals generalizing command with
  | nil =>
      rfl
  | cons goal rest inductionHypothesis =>
      obtain ⟨first, others⟩ := List.forall_mem_cons.mp undriven
      calc
        (steered record command (goal :: rest)).axis axis =
            (command.withAxis goal.axis (goal.evaluate record).value).axis axis :=
          inductionHypothesis others _
        _ = command.axis axis := by
          rw [FlightCommand.axis_withAxis, if_neg first.symm]

/-- An axis that one goal drives holds what that goal wants, whatever it held before. -/
theorem axis_steered_of_mem
    (apart : (goals.map AxisGoal.axis).Nodup)
    (member : goal ∈ goals)
    (command : FlightCommand) :
    (steered record command goals).axis goal.axis = bounded (goal.evaluate record).value := by
  induction goals generalizing command with
  | nil =>
      cases member
  | cons first rest inductionHypothesis =>
      obtain ⟨notAgain, restApart⟩ := List.nodup_cons.mp apart
      rcases List.mem_cons.mp member with rfl | later
      · have undriven : ∀ other ∈ rest, other.axis ≠ goal.axis := by
          intro other otherMember same
          exact notAgain (same ▸ List.mem_map_of_mem otherMember)
        calc
          (steered record command (goal :: rest)).axis goal.axis =
              (command.withAxis goal.axis (goal.evaluate record).value).axis goal.axis :=
            axis_steered_of_undriven undriven _
          _ = bounded (goal.evaluate record).value := by
            rw [FlightCommand.axis_withAxis, if_pos rfl]
      · exact inductionHypothesis restApart later _

end

end Objective

namespace MissionStep

/-- What a step turns into; a step that has both an action and intents turns into nothing. -/
structure Becomes
    (step : MissionStep)
    (objective : Objective) :
    Prop where
  constructed : objective.Constructed
  action : objective.action? = step.action
  goals : objective.goals = step.intents.map Intent.goal
  oneKind : step.action = none ∨ step.intents = []

/-- Without its label a step turns into what its action or its intents say. -/
theorem becomes_of_toUnlabelled
    {step : MissionStep}
    {objective : Objective}
    (converted : step.toUnlabelled = .ok objective) :
    step.Becomes objective := by
  rcases step with ⟨label, milliseconds, action, intents, earlyExit⟩
  cases action with
  | some action =>
      cases intents with
      | nil =>
          cases converted
          exact ⟨.ofAction _ action, rfl, rfl, .inr rfl⟩
      | cons intent others =>
          cases converted
  | none =>
      simp only [toUnlabelled, Objective.ofIntents] at converted
      cases accepted :
          Objective.ofGoals (Duration.ofMilliseconds milliseconds) (intents.map Intent.goal) with
      | error fault =>
          rw [accepted] at converted
          cases converted
      | ok made =>
          rw [accepted] at converted
          cases converted
          obtain ⟨-, rfl⟩ := Objective.ofGoals_eq_ok_iff.mp accepted
          exact ⟨.withEarlyExit (.ofGoals accepted) earlyExit, rfl, rfl, .inl rfl⟩

/-- With its label a step still turns into what its action or its intents say. -/
theorem becomes_of_toObjective
    {step : MissionStep}
    {objective : Objective}
    (converted : step.toObjective = .ok objective) :
    step.Becomes objective := by
  unfold toObjective at converted
  cases unlabelled : step.toUnlabelled with
  | error fault =>
      rw [unlabelled] at converted
      cases converted
  | ok made =>
      rw [unlabelled] at converted
      have becomes := becomes_of_toUnlabelled unlabelled
      cases label : step.label with
      | none =>
          simp only [Except.map, label, Except.ok.injEq] at converted
          exact converted ▸ becomes
      | some given =>
          simp only [Except.map, label, Except.ok.injEq] at converted
          subst converted
          exact ⟨.withLabel becomes.constructed given, becomes.action, becomes.goals,
            becomes.oneKind⟩

end MissionStep

/-! ## Traversals that may fail -/

section

variable {Item Result Fault : Type} {convert : Item → Except Fault Result} {items : List Item}

/-- Items are converted together exactly if each of them can be converted. -/
theorem mapM_eq_ok_iff
    {results : List Result} :
    items.mapM convert = .ok results ↔
      List.Forall₂ (fun item result => convert item = .ok result) items results := by
  induction items generalizing results with
  | nil =>
      simp [pure, Except.pure, eq_comm]
  | cons item rest inductionHypothesis =>
      simp only [List.mapM_cons, List.forall₂_cons_left_iff, ← inductionHypothesis]
      cases convert item with
      | error fault =>
          simp [bind, Except.bind]
      | ok result =>
          cases rest.mapM convert <;>
            simp [bind, Except.bind, pure, Except.pure, eq_comm]

/-- Converting items fails at the first of them that cannot be converted. -/
theorem mapM_cons_eq_error_iff
    {item : Item}
    {fault : Fault} :
    (item :: items).mapM convert = .error fault ↔
      convert item = .error fault ∨
        (∃ result, convert item = .ok result) ∧ items.mapM convert = .error fault := by
  rw [List.mapM_cons]
  cases convert item with
  | error other =>
      simp [bind, Except.bind]
  | ok result =>
      cases items.mapM convert <;> simp [bind, Except.bind, pure, Except.pure]

/-- A traversal fails as its first item that fails. -/
theorem mapM_eq_error_iff
    {fault : Fault} :
    items.mapM convert = .error fault ↔
      ∃ earlier item later,
        items = earlier ++ item :: later ∧
        (∀ valid ∈ earlier, ∃ result, convert valid = .ok result) ∧
        convert item = .error fault := by
  induction items with
  | nil =>
      simp [pure, Except.pure]
  | cons first rest inductionHypothesis =>
      rw [mapM_cons_eq_error_iff, inductionHypothesis]
      constructor
      · rintro (fails | ⟨firstValid, earlier, item, later, rfl, valid, fails⟩)
        · exact ⟨[], first, rest, rfl, List.forall_mem_nil _, fails⟩
        · exact ⟨first :: earlier, item, later, rfl,
            List.forall_mem_cons.mpr ⟨firstValid, valid⟩, fails⟩
      · rintro ⟨earlier, item, later, shape, valid, fails⟩
        cases earlier with
        | nil =>
            obtain ⟨rfl, -⟩ := List.cons.inj shape
            exact .inl fails
        | cons same earlier =>
            obtain ⟨rfl, rfl⟩ := List.cons.inj shape
            obtain ⟨firstValid, others⟩ := List.forall_mem_cons.mp valid
            exact .inr ⟨firstValid, earlier, item, later, rfl, others, fails⟩

end

/-- The objectives of a mission are those of its steps. -/
theorem Mission.objectives_eq_ok_iff
    {mission : Mission}
    {objectives : List Objective} :
    mission.objectives = .ok objectives ↔
      List.Forall₂ (fun step objective => step.toObjective = .ok objective)
        mission.steps objectives :=
  mapM_eq_ok_iff

/-- Every objective of a mission is constructed. -/
theorem Mission.constructed_of_objectives
    {mission : Mission}
    {objectives : List Objective}
    (converted : mission.objectives = .ok objectives) :
    ∀ objective ∈ objectives, objective.Constructed := by
  have paired :
      List.Forall₂
        (fun objective step => objective.Constructed ∧ step.toObjective = .ok objective)
        objectives mission.steps :=
    (objectives_eq_ok_iff.mp converted).flip.imp fun _ _ made =>
      ⟨(MissionStep.becomes_of_toObjective made).constructed, made⟩
  exact ((List.forall₂_and_left _ _).mp paired).1

end DroneSession
