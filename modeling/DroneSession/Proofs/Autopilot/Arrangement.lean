import DroneSession.Proofs.Autopilot.Composition

namespace DroneSession

/-!
# Goals in any arrangement

An objective accepts goals that drive different axes and refuses others for the first axis that is
driven again.  Goals are put into a command one after another, but accepted ones never meet on an
axis, so what they come to does not depend on their order.
-/

/-- The first axis of a list that is there once more. -/
def FirstRepeated
    (axes : List Axis)
    (axis : Axis) :
    Prop :=
  ∃ earlier later,
    axes = earlier ++ axis :: later ∧
    earlier.Nodup ∧
    axis ∈ earlier

/-- A command is what its axes hold. -/
theorem FlightCommand.ext_axis
    {first second : FlightCommand}
    (same : ∀ axis, first.axis axis = second.axis axis) :
    first = second := by
  obtain ⟨pitch, roll, yaw, gaz⟩ := first
  obtain ⟨otherPitch, otherRoll, otherYaw, otherGaz⟩ := second
  obtain rfl : pitch = otherPitch := same .pitch
  obtain rfl : roll = otherRoll := same .roll
  obtain rfl : yaw = otherYaw := same .yaw
  obtain rfl : gaz = otherGaz := same .gaz
  rfl

namespace Objective

/-! ## Acceptance -/

/-- With some axes driven before, the conflict is on the first axis that is driven again. -/
theorem conflict?_eq_some_iff
    {seen : List Axis}
    {goals : List AxisGoal}
    {axis : Axis} :
    conflict? seen goals = some axis ↔
      ∃ earlier later,
        goals.map AxisGoal.axis = earlier ++ axis :: later ∧
        earlier.Nodup ∧
        (∀ other ∈ earlier, other ∉ seen) ∧
        (axis ∈ seen ∨ axis ∈ earlier) := by
  induction goals generalizing seen with
  | nil =>
      simp [conflict?]
  | cons goal rest inductionHypothesis =>
      by_cases repeated : goal.axis ∈ seen
      · simp only [conflict?, repeated, if_true, Option.some.injEq, List.map_cons]
        constructor
        · rintro rfl
          exact ⟨[], rest.map AxisGoal.axis, rfl, .nil, List.forall_mem_nil _, .inl repeated⟩
        · rintro ⟨earlier, later, shape, -, fresh, -⟩
          cases earlier with
          | nil =>
              exact (List.cons.inj shape).1
          | cons first earlier =>
              obtain ⟨rfl, -⟩ := List.cons.inj shape
              exact absurd repeated (fresh _ List.mem_cons_self)
      · simp only [conflict?, repeated, if_false, inductionHypothesis, List.map_cons]
        constructor
        · rintro ⟨earlier, later, shape, apart, fresh, again⟩
          refine ⟨goal.axis :: earlier, later, by rw [shape, List.cons_append], ?_, ?_, ?_⟩
          · refine List.nodup_cons.mpr ⟨?_, apart⟩
            intro member
            exact fresh _ member List.mem_cons_self
          · refine List.forall_mem_cons.mpr ⟨repeated, ?_⟩
            intro other member before
            exact fresh other member (List.mem_cons_of_mem _ before)
          · simpa [or_assoc, or_left_comm] using again
        · rintro ⟨earlier, later, shape, apart, fresh, again⟩
          cases earlier with
          | nil =>
              obtain ⟨rfl, -⟩ := List.cons.inj shape
              simp [repeated] at again
          | cons first earlier =>
              obtain ⟨rfl, restShape⟩ := List.cons.inj shape
              obtain ⟨notAgain, earlierApart⟩ := List.nodup_cons.mp apart
              obtain ⟨-, earlierFresh⟩ := List.forall_mem_cons.mp fresh
              refine ⟨earlier, later, restShape, earlierApart, ?_, ?_⟩
              · intro other member before
                rcases List.mem_cons.mp before with rfl | seenBefore
                · exact notAgain member
                · exact earlierFresh other member seenBefore
              · simpa [or_assoc, or_left_comm] using again

/-- Goals are refused for the first axis that is driven again, and for nothing else. -/
theorem ofGoals_eq_error_iff
    {budget : Duration}
    {goals : List AxisGoal}
    {fault : SessionError} :
    ofGoals budget goals = .error fault ↔
      ∃ axis, FirstRepeated (goals.map AxisGoal.axis) axis ∧ fault = .axisConflict axis := by
  have refused :
      ∀ {axis},
        conflict? [] goals = some axis ↔ FirstRepeated (goals.map AxisGoal.axis) axis := by
    intro axis
    simp [conflict?_eq_some_iff, FirstRepeated]
  simp only [← refused, ofGoals]
  cases conflict? [] goals with
  | none => simp
  | some axis => simp [eq_comm]

/-- Goals become an objective exactly if they drive different axes. -/
theorem exists_ofGoals_eq_ok_iff
    {budget : Duration}
    {goals : List AxisGoal} :
    (∃ objective, ofGoals budget goals = .ok objective) ↔
      (goals.map AxisGoal.axis).Nodup := by
  simp [ofGoals_eq_ok_iff]

/-! ## Evaluation -/

/-- What an objective comes to is determined by its goals, in whichever order it has them. -/
theorem evaluate_congr_perm
    {objective other : Objective}
    (apart : (objective.goals.map AxisGoal.axis).Nodup)
    (permuted : objective.goals.Perm other.goals)
    (sameExit : objective.earlyExit = other.earlyExit)
    (record : Option NavigationRecord) :
    objective.evaluate record = other.evaluate record := by
  have otherApart : (other.goals.map AxisGoal.axis).Nodup :=
    (permuted.map AxisGoal.axis).nodup_iff.mp apart
  have sameCommand :
      (objective.evaluate record).command = (other.evaluate record).command := by
    rw [command_evaluate, command_evaluate]
    apply FlightCommand.ext_axis
    intro axis
    by_cases driven : ∃ goal ∈ objective.goals, goal.axis = axis
    · obtain ⟨goal, member, rfl⟩ := driven
      rw [axis_steered_of_mem apart member,
        axis_steered_of_mem otherApart (permuted.mem_iff.mp member)]
    · have undriven : ∀ goal ∈ objective.goals, goal.axis ≠ axis := by
        intro goal member same
        exact driven ⟨goal, member, same⟩
      have otherUndriven : ∀ goal ∈ other.goals, goal.axis ≠ axis := by
        intro goal member
        exact undriven goal (permuted.mem_iff.mpr member)
      rw [axis_steered_of_undriven undriven, axis_steered_of_undriven otherUndriven]
  have sameCompletion :
      (objective.evaluate record).complete = (other.evaluate record).complete := by
    rw [Bool.eq_iff_iff, evaluate_complete_iff, evaluate_complete_iff, sameExit]
    have bothEmpty : objective.goals = [] ↔ other.goals = [] := by
      rw [← List.length_eq_zero_iff, permuted.length_eq, List.length_eq_zero_iff]
    simp only [ne_eq, bothEmpty, permuted.mem_iff]
  calc
    objective.evaluate record =
        ⟨(objective.evaluate record).command, (objective.evaluate record).complete⟩ :=
      rfl
    _ = ⟨(other.evaluate record).command, (other.evaluate record).complete⟩ := by
      rw [sameCommand, sameCompletion]
    _ = other.evaluate record :=
      rfl

end Objective

/-! ## Steps of missions -/

namespace MissionStep

/-- Without an action a step is accepted or refused as its intents are. -/
theorem toObjective_of_no_action
    {step : MissionStep}
    (noAction : step.action = none) :
    step.toObjective =
      (Objective.ofIntents (.ofMilliseconds step.milliseconds) step.intents).map fun objective =>
        { objective with
          givenLabel := step.label.or objective.givenLabel
          earlyExit := step.earlyExit } := by
  rcases step with ⟨label, milliseconds, action, intents, earlyExit⟩
  obtain rfl : action = none := noAction
  simp only [toObjective, toUnlabelled]
  cases Objective.ofIntents (.ofMilliseconds milliseconds) intents with
  | error fault => rfl
  | ok objective => cases label <;> rfl

/-- The intents of a step without an action are refused for the first axis that is driven again. -/
theorem toObjective_eq_error_iff_of_no_action
    {step : MissionStep}
    (noAction : step.action = none)
    {fault : SessionError} :
    step.toObjective = .error fault ↔
      ∃ axis,
        FirstRepeated ((step.intents.map Intent.goal).map AxisGoal.axis) axis ∧
        fault = .axisConflict axis := by
  rw [toObjective_of_no_action noAction, ← Objective.ofGoals_eq_error_iff, Objective.ofIntents]
  cases Objective.ofGoals (.ofMilliseconds step.milliseconds) _ <;> simp [Except.map]

/-- A step without an action becomes an objective exactly if its intents drive different axes. -/
theorem exists_toObjective_eq_ok_iff_of_no_action
    {step : MissionStep}
    (noAction : step.action = none) :
    (∃ objective, step.toObjective = .ok objective) ↔
      ((step.intents.map Intent.goal).map AxisGoal.axis).Nodup := by
  rw [toObjective_of_no_action noAction, ← Objective.exists_ofGoals_eq_ok_iff, Objective.ofIntents]
  cases Objective.ofGoals (.ofMilliseconds step.milliseconds) _ <;> simp [Except.map]

end MissionStep

namespace Objective

/-- How goals become an objective, and what it comes to in one tick. -/
structure Composes
    (budget : Duration)
    (goals : List AxisGoal) :
    Prop where
  /-- Goals that drive different axes are accepted, and no others. -/
  accepts :
    (∃ objective, ofGoals budget goals = .ok objective) ↔
      (goals.map AxisGoal.axis).Nodup
  /-- Others are refused for the first axis that is driven again. -/
  refuses :
    ∀ {fault},
      ofGoals budget goals = .error fault ↔
        ∃ axis, FirstRepeated (goals.map AxisGoal.axis) axis ∧ fault = .axisConflict axis
  /-- An axis holds what the one goal that drives it wants, within bounds. -/
  driven :
    ∀ {objective goal},
      ofGoals budget goals = .ok objective →
      goal ∈ goals →
      ∀ earlyExit record,
        ((objective.withEarlyExit earlyExit).evaluate record).command.axis goal.axis =
          bounded (goal.evaluate record).value
  /-- An axis that no goal drives is positive zero, bit for bit. -/
  undriven :
    ∀ {objective axis},
      ofGoals budget goals = .ok objective →
      axis ∉ goals.map AxisGoal.axis →
      ∀ earlyExit record,
        (((objective.withEarlyExit earlyExit).evaluate record).command.axis axis).toBits = 0
  complete :
    ∀ {objective},
      ofGoals budget goals = .ok objective →
      ∀ earlyExit record,
        ((objective.withEarlyExit earlyExit).evaluate record).complete = true ↔
          earlyExit = true ∧
            goals ≠ [] ∧
            ∀ goal ∈ goals, (goal.evaluate record).satisfied = true
  /-- Any other arrangement of the goals is accepted too and comes to the same. -/
  rearranged :
    ∀ {objective others},
      ofGoals budget goals = .ok objective →
      goals.Perm others →
      ∃ other,
        ofGoals budget others = .ok other ∧
        ∀ earlyExit record,
          (other.withEarlyExit earlyExit).evaluate record =
            (objective.withEarlyExit earlyExit).evaluate record
  /-- A step without an action is accepted, refused and evaluated like its intents. -/
  steps :
    ∀ {step : MissionStep},
      step.action = none →
      step.intents.map Intent.goal = goals →
      ((∃ objective, step.toObjective = .ok objective) ↔
        (goals.map AxisGoal.axis).Nodup) ∧
      (∀ {fault},
        step.toObjective = .error fault ↔
          ∃ axis, FirstRepeated (goals.map AxisGoal.axis) axis ∧ fault = .axisConflict axis) ∧
      ∀ {objective converted},
        ofGoals budget goals = .ok objective →
        step.toObjective = .ok converted →
        ∀ record,
          converted.evaluate record = (objective.withEarlyExit step.earlyExit).evaluate record

/--
Goals become an objective exactly if they drive different axes, and their order is immaterial.
-/
theorem composes
    (budget : Duration)
    (goals : List AxisGoal) :
    Composes budget goals where
  accepts :=
    exists_ofGoals_eq_ok_iff
  refuses :=
    ofGoals_eq_error_iff
  driven := by
    intro objective goal accepted member earlyExit record
    obtain ⟨apart, rfl⟩ := ofGoals_eq_ok_iff.mp accepted
    rw [command_evaluate]
    exact axis_steered_of_mem apart member _
  undriven := by
    intro objective axis accepted notDriven earlyExit record
    obtain ⟨-, rfl⟩ := ofGoals_eq_ok_iff.mp accepted
    have undriven : ∀ goal ∈ goals, goal.axis ≠ axis := by
      intro goal member same
      exact notDriven (same ▸ List.mem_map_of_mem member)
    rw [command_evaluate]
    refine (congrArg Float32.toBits (axis_steered_of_undriven undriven _)).trans ?_
    rw [FlightCommand.axis_hover]
    decide +kernel
  complete := by
    intro objective accepted earlyExit record
    obtain ⟨-, rfl⟩ := ofGoals_eq_ok_iff.mp accepted
    exact evaluate_complete_iff
  rearranged := by
    intro objective others accepted permuted
    obtain ⟨apart, rfl⟩ := ofGoals_eq_ok_iff.mp accepted
    have othersApart : (others.map AxisGoal.axis).Nodup :=
      (permuted.map AxisGoal.axis).nodup_iff.mp apart
    refine ⟨_, ofGoals_eq_ok_iff.mpr ⟨othersApart, rfl⟩, ?_⟩
    intro earlyExit record
    apply evaluate_congr_perm
    case apart => exact othersApart
    case permuted => exact permuted.symm
    case sameExit => rfl
  steps := by
    rintro step noAction rfl
    refine ⟨MissionStep.exists_toObjective_eq_ok_iff_of_no_action noAction,
      MissionStep.toObjective_eq_error_iff_of_no_action noAction, ?_⟩
    intro objective converted accepted becomes record
    obtain ⟨apart, rfl⟩ := ofGoals_eq_ok_iff.mp accepted
    rw [step.toObjective_of_no_action noAction, ofIntents,
      ofGoals_eq_ok_iff.mpr ⟨apart, rfl⟩] at becomes
    cases becomes
    rfl

end Objective

end DroneSession
