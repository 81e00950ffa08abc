import DroneSession.Proofs.Autopilot.Composition
import DroneSession.Proofs.Autopilot.Coherence

namespace DroneSession

/-!
# Safe commands

Telemetry arrives as arbitrary bits, and intents compute with it as it is.  A tick sends a hover
command or what the goals of the first objective turn it into, so no tick lets an axis leave its
bounds; and what is not a number reaches an axis as zero.
-/

namespace Intent

/-- A limited output is between the limits, or not a number. -/
theorem isAxisValue_of
    {value : Float32}
    {satisfied : Bool}
    (number : (IntentOutput.of value satisfied).value.isNaN = false) :
    IsAxisValue (IntentOutput.of value satisfied).value := by
  apply isAxisValue_clampUnit
  rw [← Bool.not_eq_true]
  intro notNumber
  simp only [IntentOutput.of, clampUnit_of_isNaN notNumber, notNumber] at number
  cases number

/-- A goal that steers by telemetry keeps its rule's limits, or wants no number. -/
theorem isAxisValue_steer
    {rule : NavigationRecord → IntentOutput}
    (limited : ∀ record, (rule record).value.isNaN = false → IsAxisValue (rule record).value)
    {record : Option NavigationRecord}
    (number : (steer rule record).value.isNaN = false) :
    IsAxisValue (steer rule record).value := by
  cases record with
  | none => exact isAxisValue_zero
  | some record => exact limited record number

/-- Whatever it is given and the record holds, an intent that wants a number wants an axis value. -/
theorem isAxisValue_evaluate
    {intent : Intent}
    {record : Option NavigationRecord}
    (number : (intent.evaluate record).value.isNaN = false) :
    IsAxisValue (intent.evaluate record).value := by
  cases intent with
  | pitchHold | rollHold | yawRate | verticalSpeed =>
      exact isAxisValue_of number
  | heading | altitude | velocityX | velocityY =>
      exact isAxisValue_steer (fun _ => isAxisValue_of) number

end Intent

namespace Autopilot

variable {autopilot : Autopilot} {now : Instant} {record : Option NavigationRecord}
  {command : FlightCommand}

/-- A tick that sends a command has the drone hover or do what the first objective wants. -/
theorem hovers_or_steers
    (sent : (autopilot.tick now record).2.command = some command) :
    command = .hover ∨
      ∃ objective,
        autopilot.queue.head? = some objective ∧
        command = (objective.evaluate record).command := by
  have hovering : autopilot.pendingCommand = some command → command = .hover := by
    intro pending
    unfold pendingCommand at pending
    split at pending
    · exact (Option.some.inj pending).symm
    · cases pending
  have ticked := autopilot.tickCase now record
  generalize autopilot.tick now record = result at ticked sent
  cases ticked with
  | idle =>
      cases sent
  | waiting =>
      exact .inl (hovering sent)
  | pursuing objective _ _ queued | retiring objective _ _ _ _ queued =>
      simp only [wantedCommand] at sent
      split at sent
      · split at sent
        · exact .inl (Option.some.inj sent).symm
        · exact .inl (hovering sent)
      · exact .inr ⟨objective, by simp [queued], (Option.some.inj sent).symm⟩
  | draining =>
      exact .inl (Option.some.inj sent).symm

/-- Whatever telemetry says, the command of a tick is safe. -/
theorem isSafe_of_tick
    (sent : (autopilot.tick now record).2.command = some command) :
    command.IsSafe := by
  rcases hovers_or_steers sent with rfl | ⟨objective, -, rfl⟩
  · exact FlightCommand.isSafe_hover
  · rw [Objective.command_evaluate]
    exact Objective.isSafe_steered FlightCommand.isSafe_hover

/-- No run sends an unsafe command, whichever objectives it flies. -/
theorem isSafe_of_mem_outputs
    {operations : List AutopilotOperation}
    {output : TickOutput}
    (member : output ∈ autopilot.outputs operations)
    (sent : output.command = some command) :
    command.IsSafe := by
  induction operations generalizing autopilot with
  | nil =>
      cases member
  | cons operation rest inductionHypothesis =>
      rcases List.mem_cons.mp member with rfl | later
      · cases operation with
        | enqueue | clear | setActive => cases sent
        | tick now record => exact isSafe_of_tick sent
      · exact inductionHypothesis later

/-- An axis that no goal of the first objective drives is neutral. -/
theorem axis_of_undriven
    {axis : Axis}
    (sent : (autopilot.tick now record).2.command = some command)
    (undriven :
      ∀ objective,
        autopilot.queue.head? = some objective →
        ∀ goal ∈ objective.goals, goal.axis ≠ axis) :
    command.axis axis = 0.0 := by
  rcases hovers_or_steers sent with rfl | ⟨objective, first, rfl⟩
  · exact FlightCommand.axis_hover axis
  · rw [Objective.command_evaluate, Objective.axis_steered_of_undriven (undriven objective first),
      FlightCommand.axis_hover]

/-- An axis whose goal wants no number is neutral. -/
theorem axis_of_isNaN
    {objective : Objective}
    {goal : AxisGoal}
    (sent : (autopilot.tick now record).2.command = some command)
    (first : autopilot.queue.head? = some objective)
    (constructed : objective.Constructed)
    (member : goal ∈ objective.goals)
    (notNumber : (goal.evaluate record).value.isNaN = true) :
    command.axis goal.axis = 0.0 := by
  rcases hovers_or_steers sent with rfl | ⟨same, sameFirst, rfl⟩
  · exact FlightCommand.axis_hover goal.axis
  · obtain rfl : objective = same :=
      Option.some.inj (first.symm.trans sameFirst)
    rw [Objective.command_evaluate, Objective.axis_steered_of_mem constructed.nodup_axes member,
      bounded_of_isNaN notNumber]

/-- Loading a mission is a run that enqueues constructed objectives. -/
theorem exists_run_of_loadMission
    {mission : Mission}
    {next : Autopilot}
    {count : Nat}
    (loaded : autopilot.loadMission mission = .ok (next, count)) :
    ∃ objectives : List Objective,
      next = autopilot.run (.clear :: objectives.map .enqueue) ∧
        ∀ objective ∈ objectives, objective.Constructed := by
  unfold loadMission at loaded
  cases converted : mission.objectives with
  | error fault =>
      rw [converted] at loaded
      cases loaded
  | ok objectives =>
      rw [converted] at loaded
      cases loaded
      exact ⟨objectives, (run_enqueue _ objectives).symm,
        mission.constructed_of_objectives converted⟩

/--
What the commands of a run from the start hold.

The first clause is on all outputs of the run, the next two on one more tick.
-/
structure CommandsSafely (operations : List AutopilotOperation) : Prop where
  safe :
    ∀ {output command},
      output ∈ start.outputs operations →
      output.command = some command →
      command.IsSafe
  /-- An axis without a goal is positive zero, bit for bit. -/
  neutral :
    ∀ {now record command axis},
      ((start.run operations).tick now record).2.command = some command →
      (∀ objective,
        (start.run operations).queue.head? = some objective →
        ∀ goal ∈ objective.goals, goal.axis ≠ axis) →
      (command.axis axis).toBits = 0
  /-- So is one whose goal wants what is not a number. -/
  notNumber :
    (∀ objective, .enqueue objective ∈ operations → objective.Constructed) →
    ∀ {now record command objective goal},
      ((start.run operations).tick now record).2.command = some command →
      (start.run operations).queue.head? = some objective →
      goal ∈ objective.goals →
      (goal.evaluate record).value.isNaN = true →
      (command.axis goal.axis).toBits = 0
  intents :
    ∀ {intent : Intent} {record},
      (intent.evaluate record).value.isNaN = false →
      IsAxisValue (intent.evaluate record).value
  /-- Missions are flown by runs like these. -/
  missions :
    ∀ {mission next count},
      (start.run operations).loadMission mission = .ok (next, count) →
      ∃ objectives : List Objective,
        next = start.run (operations ++ .clear :: objectives.map .enqueue) ∧
          ∀ objective ∈ objectives, objective.Constructed

/-- Every run of the autopilot sends safe commands only. -/
theorem commandsSafely
    (operations : List AutopilotOperation) :
    CommandsSafely operations where
  safe :=
    isSafe_of_mem_outputs
  neutral := by
    intro now record command axis sent undriven
    rw [axis_of_undriven sent undriven]
    decide +kernel
  notNumber := by
    intro enqueued now record command objective goal sent first member notNumber
    have constructed : objective.Constructed :=
      forall_queue_run (by simp [start]) enqueued objective (List.mem_of_head? first)
    rw [axis_of_isNaN sent first constructed member notNumber]
    decide +kernel
  intents :=
    Intent.isAxisValue_evaluate
  missions := by
    intro mission next count loaded
    obtain ⟨objectives, rfl, constructed⟩ := exists_run_of_loadMission loaded
    exact ⟨objectives, (run_append start operations _).symm, constructed⟩

/-- Of two goals that want no number and infinity the one leaves its axis neutral. -/
example :
    let wild : Objective :=
      { givenLabel := none
        budget := .zero
        task :=
          .steer
            [ (Intent.pitchHold (.ofBits 0x7fc00000)).goal,
              (Intent.rollHold (.ofBits 0x7f800000)).goal ]
        earlyExit := false }
    let evaluated := (wild.evaluate none).command
    evaluated.pitch.toBits = 0 ∧ evaluated.roll = 1.0 := by
  decide +kernel

end Autopilot

end DroneSession
