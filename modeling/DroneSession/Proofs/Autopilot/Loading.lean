import DroneSession.Proofs.Autopilot.Actions
import DroneSession.Proofs.Autopilot.Arrangement

namespace DroneSession

/-!
# Loading a mission

All steps of a mission are converted before anything is done to the queue, so a mission with a bad
step leaves a deck as it was.  One that is loaded puts its objectives in place of all others; from
then on the autopilot reports what it would if it had never had any others.
-/

/-! ## Missions that are refused -/

/-- Why a step turns into no objective. -/
inductive MissionStep.Refused (step : MissionStep) : SessionError → Prop where
  | bothKinds
      (acts : step.action ≠ none)
      (steers : step.intents ≠ []) :
      Refused step (.configuration "a mission step has either an action or intents, not both")
  | repeated
      {axis : Axis}
      (noAction : step.action = none)
      (repeated : FirstRepeated (step.intents.map Intent.axis) axis) :
      Refused step (.axisConflict axis)

/-- A step is refused for one of the reasons that are listed, and for no other. -/
theorem MissionStep.toObjective_eq_error_iff
    {step : MissionStep}
    {fault : SessionError} :
    step.toObjective = .error fault ↔ step.Refused fault := by
  have sameAxes :
      (step.intents.map Intent.goal).map AxisGoal.axis = step.intents.map Intent.axis :=
    List.map_map
  constructor
  · intro failed
    cases acts : step.action with
    | none =>
        obtain ⟨axis, repeated, rfl⟩ := (toObjective_eq_error_iff_of_no_action acts).mp failed
        exact .repeated acts (sameAxes ▸ repeated)
    | some action =>
        cases steers : step.intents with
        | nil =>
            simp [toObjective, toUnlabelled, acts, steers, Except.map] at failed
        | cons intent others =>
            simp only [toObjective, toUnlabelled, acts, steers, Except.map,
              Except.error.injEq] at failed
            subst failed
            exact .bothKinds (by simp [acts]) (by simp [steers])
  · rintro (⟨acts, steers⟩ | ⟨noAction, repeated⟩)
    · obtain ⟨action, acts⟩ := Option.ne_none_iff_exists'.mp acts
      obtain ⟨intent, others, steers⟩ := List.exists_cons_of_ne_nil steers
      simp [toObjective, toUnlabelled, acts, steers, Except.map]
    · exact (toObjective_eq_error_iff_of_no_action noAction).mpr
        ⟨_, sameAxes.symm ▸ repeated, rfl⟩

/-- The first step of a mission that turns into no objective, by its fault. -/
def Mission.FirstRefused
    (mission : Mission)
    (fault : SessionError) :
    Prop :=
  ∃ earlier step later,
    mission.steps = earlier ++ step :: later ∧
    (∀ valid ∈ earlier, ∀ other, ¬ valid.Refused other) ∧
    step.Refused fault

/-- A mission is refused for the fault of its first step that is. -/
theorem Mission.objectives_eq_error_iff
    {mission : Mission}
    {fault : SessionError} :
    mission.objectives = .error fault ↔ mission.FirstRefused fault := by
  have accepted :
      ∀ step : MissionStep,
        (∃ objective, step.toObjective = .ok objective) ↔ ∀ other, ¬ step.Refused other := by
    intro step
    simp only [← MissionStep.toObjective_eq_error_iff]
    cases step.toObjective <;> simp
  simp only [objectives, mapM_eq_error_iff, FirstRefused, accepted,
    MissionStep.toObjective_eq_error_iff]

/-! ## The call, step by step -/

/-- A call to a deck; what it has done by the time it fails stays done. -/
abbrev DeckCall := ExceptT SessionError (StateM FlightDeck)

namespace FlightDeck

/-- The result of a call and the deck that it leaves behind. -/
def undergo
    {Result : Type}
    (deck : FlightDeck)
    (call : DeckCall Result) :
    Except SessionError Result × FlightDeck :=
  (call.run).run deck

/-- Convert one step after another; then clear the queue and fill it. -/
def loading (mission : Mission) : DeckCall Nat := do
  let objectives ← mission.steps.mapM fun step => liftExcept step.toObjective
  modify fun deck => deck.withAutopilot Autopilot.clear
  forM objectives fun objective =>
    modify fun deck => deck.withAutopilot fun autopilot => autopilot.enqueue objective
  return objectives.length

section

variable {Result Next : Type} (deck : FlightDeck)

/-- A call that fails in its first part does nothing more, and otherwise goes on. -/
theorem undergo_bind
    (call : DeckCall Result)
    (next : Result → DeckCall Next) :
    deck.undergo (call >>= next) =
      match deck.undergo call with
      | (.ok result, after) => after.undergo (next result)
      | (.error fault, after) => (.error fault, after) := by
  simp only [undergo, ExceptT.run_bind, StateT.run_bind]
  change (match (call.run).run deck with | (result, after) => _) = _
  rcases (call.run).run deck with ⟨_ | result, after⟩ <;> rfl

theorem undergo_modify
    (change : FlightDeck → FlightDeck) :
    deck.undergo (modify change) = (.ok (), change deck) :=
  rfl

theorem undergo_liftExcept
    (result : Except SessionError Result) :
    deck.undergo (liftExcept result) = (result, deck) := by
  cases result <;> rfl

end

/-- Converting the steps of a mission does nothing to a deck. -/
theorem undergo_conversion
    (deck : FlightDeck)
    (steps : List MissionStep) :
    deck.undergo (steps.mapM fun step => liftExcept step.toObjective) =
      (steps.mapM MissionStep.toObjective, deck) := by
  induction steps with
  | nil =>
      rfl
  | cons step rest inductionHypothesis =>
      simp only [List.mapM_cons, undergo_bind, undergo_liftExcept]
      cases step.toObjective with
      | error fault =>
          rfl
      | ok objective =>
          simp only [inductionHypothesis]
          cases rest.mapM MissionStep.toObjective <;> rfl

/-- Filling the queue enqueues one objective after another. -/
theorem undergo_filling
    (deck : FlightDeck)
    (objectives : List Objective) :
    deck.undergo
        (forM objectives fun objective =>
          modify fun deck => deck.withAutopilot fun autopilot => autopilot.enqueue objective) =
      (.ok (), deck.withAutopilot fun autopilot => autopilot.enqueueAll objectives) := by
  induction objectives generalizing deck with
  | nil =>
      rfl
  | cons objective rest inductionHypothesis =>
      rw [List.forM_cons, undergo_bind, undergo_modify]
      exact inductionHypothesis _

/-- Step by step, the call comes to what `loadMission` does at once. -/
theorem undergo_loading
    (deck : FlightDeck)
    (mission : Mission) :
    deck.undergo (loading mission) =
      match deck.loadMission mission with
      | .ok (loaded, count) => (.ok count, loaded)
      | .error fault => (.error fault, deck) := by
  simp only [loading, undergo_bind, undergo_conversion, loadMission, Autopilot.loadMission,
    Mission.objectives]
  cases mission.steps.mapM MissionStep.toObjective with
  | error fault =>
      rfl
  | ok objectives =>
      simp only [undergo_modify, undergo_filling]
      rfl

end FlightDeck

/-- The label of the objective that an event is about. -/
def AutopilotEvent.label? : AutopilotEvent → Option String
  | .started label => some label
  | .retired label _ => some label
  | .outOfObjectives => none

namespace Autopilot

/-! ## What is reported later -/

/-- Two autopilots differ at most in whether a hover command is pending. -/
structure SamePlan (first second : Autopilot) : Prop where
  queue : first.queue = second.queue
  started : first.started = second.started
  active : first.active = second.active

namespace SamePlan

variable {first second : Autopilot}

/-- A pending hover command has no part in what a tick reports. -/
theorem tick
    (same : SamePlan first second)
    (now : Instant)
    (record : Option NavigationRecord) :
    SamePlan (first.tick now record).1 (second.tick now record).1 ∧
      (first.tick now record).2.events = (second.tick now record).2.events := by
  cases active : second.active with
  | false =>
      have firstActive := same.active.trans active
      simp only [Autopilot.tick, active, firstActive, Bool.false_eq_true, if_false, and_true]
      exact same
  | true =>
      have firstActive := same.active.trans active
      cases queued : second.queue with
      | nil =>
          rw [tick_of_empty active queued, tick_of_empty firstActive (same.queue.trans queued)]
          exact ⟨⟨same.queue, same.started, same.active⟩, rfl⟩
      | cons objective others =>
          have sameStart : first.startTime now = second.startTime now := by
            rw [startTime, startTime, same.started]
          have sameEvents : first.startEvents objective = second.startEvents objective := by
            rw [startEvents, startEvents, same.started]
          have sameDue :
              first.dueRetirement? objective now record =
                second.dueRetirement? objective now record := by
            rw [dueRetirement?, dueRetirement?, sameStart]
          rw [tick_of_queue active queued, tick_of_queue firstActive (same.queue.trans queued),
            sameDue]
          cases second.dueRetirement? objective now record with
          | none =>
              exact ⟨⟨same.queue, congrArg some sameStart, same.active⟩, sameEvents⟩
          | some reason =>
              simp only [retire, same.queue, sameEvents]
              cases second.queue.tail.isEmpty with
              | false => exact ⟨⟨rfl, rfl, same.active⟩, rfl⟩
              | true => exact ⟨⟨rfl, rfl, rfl⟩, rfl⟩

/-- An operation does the same to two autopilots that have the same plan. -/
theorem perform
    (same : SamePlan first second)
    (operation : AutopilotOperation) :
    SamePlan (first.perform operation).1 (second.perform operation).1 ∧
      (first.perform operation).2.events = (second.perform operation).2.events := by
  cases operation with
  | enqueue objective =>
      exact ⟨⟨congrArg (· ++ [objective]) same.queue, same.started, same.active⟩, rfl⟩
  | clear =>
      exact ⟨⟨rfl, rfl, same.active⟩, rfl⟩
  | setActive active =>
      cases active with
      | false => exact ⟨⟨same.queue, rfl, rfl⟩, rfl⟩
      | true => exact ⟨⟨same.queue, same.started, rfl⟩, rfl⟩
  | tick now record =>
      exact same.tick now record

/-- Two autopilots with the same plan report the same for ever. -/
theorem log
    (same : SamePlan first second)
    (operations : List AutopilotOperation) :
    first.log operations = second.log operations := by
  induction operations generalizing first second with
  | nil =>
      rfl
  | cons operation rest inductionHypothesis =>
      obtain ⟨next, sameEvents⟩ := same.perform operation
      rw [Autopilot.log, Autopilot.log, inductionHypothesis next, entries, entries, sameEvents]

end SamePlan

/-- An event is about the first objective of the queue. -/
theorem exists_first_of_label
    {autopilot : Autopilot}
    {operation : AutopilotOperation}
    {event : AutopilotEvent}
    (reported : event ∈ (autopilot.perform operation).2.events)
    {label : String}
    (named : event.label? = some label) :
    ∃ objective, autopilot.queue.head? = some objective ∧ objective.label = label := by
  cases operation with
  | enqueue | clear | setActive =>
      cases reported
  | tick now record =>
      have ticked := autopilot.tickCase now record
      simp only [perform] at reported
      generalize autopilot.tick now record = result at ticked reported
      cases ticked with
      | idle | waiting =>
          cases reported
      | pursuing objective _ _ queued | retiring objective _ _ _ _ queued
      | draining objective _ _ queued =>
          refine ⟨objective, by simp [queued], ?_⟩
          rcases autopilot.startEvents_eq objective with same | same <;>
            rw [same] at reported <;>
            grind [AutopilotEvent.label?]

/-- Whatever a run reports is about objectives that it found or was given. -/
theorem exists_objective_of_label
    {autopilot : Autopilot}
    {operations : List AutopilotOperation}
    {event : AutopilotEvent}
    (reported : .event event ∈ autopilot.log operations)
    {label : String}
    (named : event.label? = some label) :
    ∃ objective : Objective,
      objective.label = label ∧
      (objective ∈ autopilot.queue ∨ .enqueue objective ∈ operations) := by
  induction operations generalizing autopilot with
  | nil =>
      cases reported
  | cons operation rest inductionHypothesis =>
      rcases List.mem_append.mp reported with now | later
      · have inEvents : event ∈ (autopilot.perform operation).2.events := by
          simpa [entries] using now
        obtain ⟨objective, first, same⟩ := exists_first_of_label inEvents named
        exact ⟨objective, same, .inl (List.mem_of_mem_head? first)⟩
      · obtain ⟨objective, same, queued | given⟩ := inductionHypothesis later
        · have known :
              ∀ known ∈ (autopilot.run [operation]).queue,
                known ∈ autopilot.queue ∨ .enqueue known ∈ [operation] :=
            forall_queue_run (fun _ => .inl) (fun _ => .inr)
          refine ⟨objective, same, (known objective queued).imp_right ?_⟩
          intro isGiven
          exact List.mem_cons.mpr (.inl (List.mem_singleton.mp isGiven))
        · exact ⟨objective, same, .inr (List.mem_cons_of_mem operation given)⟩

/-- An objective that waits at the front does so until a tick finds the autopilot active. -/
theorem waits_run
    {autopilot : Autopilot}
    {objective : Objective}
    {operations : List AutopilotOperation}
    (first : autopilot.queue.head? = some objective)
    (waiting : autopilot.started = none)
    (uncleared : .clear ∉ operations)
    (idleTicks :
      ∀ earlier now record later,
        operations = earlier ++ .tick now record :: later →
        (autopilot.run earlier).active = false) :
    (autopilot.run operations).queue.head? = some objective ∧
      (autopilot.run operations).started = none := by
  induction operations generalizing autopilot with
  | nil =>
      exact ⟨first, waiting⟩
  | cons operation rest inductionHypothesis =>
      simp only [List.mem_cons, not_or] at uncleared
      have laterTicks :
          ∀ earlier now record later,
            rest = earlier ++ .tick now record :: later →
            ((autopilot.perform operation).1.run earlier).active = false := by
        intro earlier now record later shape
        exact idleTicks (operation :: earlier) now record later (congrArg (operation :: ·) shape)
      cases operation with
      | enqueue added =>
          have stillFirst : (autopilot.enqueue added).queue.head? = some objective := by
            simp [enqueue, first]
          exact inductionHypothesis stillFirst waiting uncleared.2 laterTicks
      | clear =>
          exact absurd rfl uncleared.1
      | setActive active =>
          cases active with
          | false => exact inductionHypothesis first rfl uncleared.2 laterTicks
          | true => exact inductionHypothesis first waiting uncleared.2 laterTicks
      | tick now record =>
          have idle : autopilot.active = false := idleTicks [] now record rest rfl
          have unchanged : (autopilot.perform (.tick now record)).1 = autopilot := by
            simp [perform, Autopilot.tick, idle]
          rw [unchanged] at laterTicks
          rw [run, unchanged]
          exact inductionHypothesis first waiting uncleared.2 laterTicks

end Autopilot

namespace FlightDeck

/-- The deck with other objectives in place of its own, none of them in progress. -/
def withObjectives
    (deck : FlightDeck)
    (objectives : List Objective) :
    FlightDeck :=
  deck.withAutopilot fun autopilot =>
    { queue := objectives
      started := none
      active := autopilot.active
      hoverPending :=
        autopilot.hoverPending || (autopilot.active && autopilot.started.isSome) }

/-- A call that loads a mission fails as the first bad step does, and then it changes nothing. -/
theorem undergo_loading_eq_error_iff
    {deck after : FlightDeck}
    {mission : Mission}
    {fault : SessionError} :
    deck.undergo (loading mission) = (.error fault, after) ↔
      mission.FirstRefused fault ∧ after = deck := by
  rw [undergo_loading, ← Mission.objectives_eq_error_iff, loadMission, Autopilot.loadMission]
  cases mission.objectives <;> simp [Except.map, eq_comm]

/--
A mission is loaded exactly if all its steps are converted, and then its objectives are the queue.
-/
theorem undergo_loading_eq_ok_iff
    {deck after : FlightDeck}
    {mission : Mission}
    {count : Nat} :
    deck.undergo (loading mission) = (.ok count, after) ↔
      ∃ objectives,
        List.Forall₂ (fun step objective => step.toObjective = .ok objective)
          mission.steps objectives ∧
        count = mission.steps.length ∧
        after = deck.withObjectives objectives := by
  simp only [← Mission.objectives_eq_ok_iff]
  constructor
  · intro done
    rw [undergo_loading, loadMission, Autopilot.loadMission] at done
    cases converted : mission.objectives with
    | error fault =>
        rw [converted] at done
        cases done
    | ok objectives =>
        rw [converted] at done
        cases done
        refine ⟨objectives, rfl, ?_, ?_⟩
        · exact (Mission.objectives_eq_ok_iff.mp converted).length_eq.symm
        · rw [Autopilot.enqueueAll_eq]
          rfl
  · rintro ⟨objectives, converted, rfl, rfl⟩
    have sameLength := (Mission.objectives_eq_ok_iff.mp converted).length_eq
    rw [undergo_loading, loadMission, Autopilot.loadMission, converted, sameLength]
    simp only [Except.map, Autopilot.enqueueAll_eq]
    rfl

/-- How a deck takes a mission. -/
structure TakesWhole
    (deck : FlightDeck)
    (mission : Mission) :
    Prop where
  /-- The call is made step by step. -/
  stepwise :
    deck.undergo (loading mission) =
      match deck.loadMission mission with
      | .ok (loaded, count) => (.ok count, loaded)
      | .error fault => (.error fault, deck)
  /-- It fails as the first step that turns into no objective, and then nothing has changed. -/
  nothing :
    ∀ {fault after},
      deck.undergo (loading mission) = (.error fault, after) ↔
        mission.FirstRefused fault ∧ after = deck
  /-- Otherwise the objectives of the steps replace the queue, and none is in progress. -/
  whole :
    ∀ {count after},
      deck.undergo (loading mission) = (.ok count, after) ↔
        ∃ objectives,
          List.Forall₂ (fun step objective => step.toObjective = .ok objective)
            mission.steps objectives ∧
          count = mission.steps.length ∧
          after = deck.withObjectives objectives
  /-- From then on the log is that of an autopilot that has never had any other objectives. -/
  forgets :
    ∀ {count after},
      deck.undergo (loading mission) = (.ok count, after) →
      ∀ operations,
        after.autopilot.log operations =
          ((Autopilot.start.enqueueAll after.autopilot.queue).setActive
            deck.autopilot.active).log operations
  /-- So every event is about an objective of the mission or about one that is added later. -/
  attributed :
    ∀ {count after},
      deck.undergo (loading mission) = (.ok count, after) →
      ∀ {operations event label},
        .event event ∈ after.autopilot.log operations →
        event.label? = some label →
        ∃ objective : Objective,
          objective.label = label ∧
          (objective ∈ after.autopilot.queue ∨ .enqueue objective ∈ operations)
  /-- The first tick that finds the autopilot active starts the first objective of the mission. -/
  starts :
    ∀ {count after objective},
      deck.undergo (loading mission) = (.ok count, after) →
      after.autopilot.queue.head? = some objective →
      ∀ {between},
        .clear ∉ between →
        (∀ earlier now record later,
          between = earlier ++ .tick now record :: later →
          (after.autopilot.run earlier).active = false) →
        (after.autopilot.run between).active = true →
        ∀ now record, (after.autopilot.run between).Starts now record objective

/-- Every deck takes every mission as a whole or not at all. -/
theorem takesWhole
    (deck : FlightDeck)
    (mission : Mission) :
    deck.TakesWhole mission where
  stepwise :=
    deck.undergo_loading mission
  nothing :=
    undergo_loading_eq_error_iff
  whole :=
    undergo_loading_eq_ok_iff
  forgets := by
    intro count after done operations
    obtain ⟨objectives, -, -, rfl⟩ := undergo_loading_eq_ok_iff.mp done
    apply Autopilot.SamePlan.log
    rw [Autopilot.enqueueAll_eq]
    cases active : deck.autopilot.active <;> exact ⟨rfl, rfl, active⟩
  attributed := by
    intro count after done operations event label reported named
    exact Autopilot.exists_objective_of_label reported named
  starts := by
    intro count after objective done first between uncleared idleTicks active now record
    obtain ⟨objectives, -, -, rfl⟩ := undergo_loading_eq_ok_iff.mp done
    obtain ⟨stillFirst, waiting⟩ := Autopilot.waits_run first rfl uncleared idleTicks
    exact Autopilot.starts_iff.mpr ⟨active, waiting, stillFirst⟩

/-- A flown objective outlives a mission whose second step drives an axis twice. -/
example :
    let flown := Objective.ofAction (.ofNanoseconds 5) .land
    let deck :=
      (ready.withAutopilot fun autopilot =>
        autopilot.run [.enqueue flown, .setActive true, .tick ⟨0⟩ none])
    let mission : Mission :=
      { steps := [.ofAction 1000 .takeoff, .ofIntents 2000 [.altitude 1.0, .altitude 2.0]] }
    deck.undergo (loading mission) = (.error (.axisConflict .gaz), deck) :=
  rfl

end FlightDeck

end DroneSession
