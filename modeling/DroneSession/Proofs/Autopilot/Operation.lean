import DroneSession.Autopilot.Basic

namespace DroneSession

/-!
# Runs of the autopilot

An operation is whatever a caller or the clock does to an autopilot, and a run is a finite sequence
of operations.  `Autopilot.TickCase` lists once what a tick can do; every law of a run rests on it
instead of on the text of the tick.
-/

/-- What is done to an autopilot. -/
inductive AutopilotOperation where
  | enqueue (objective : Objective)
  | clear
  | setActive (active : Bool)
  | tick (now : Instant) (record : Option NavigationRecord)

namespace Autopilot

/-- The autopilot after an operation, and what the operation wants sent. -/
def perform
    (autopilot : Autopilot) :
    AutopilotOperation → Autopilot × TickOutput
  | .enqueue objective => (autopilot.enqueue objective, .quiet)
  | .clear => (autopilot.clear, .quiet)
  | .setActive active => (autopilot.setActive active, .quiet)
  | .tick now record => autopilot.tick now record

/-- The autopilot after a sequence of operations. -/
def run
    (autopilot : Autopilot) :
    List AutopilotOperation → Autopilot
  | [] => autopilot
  | operation :: operations => (autopilot.perform operation).1.run operations

theorem run_append
    (autopilot : Autopilot)
    (first second : List AutopilotOperation) :
    autopilot.run (first ++ second) = (autopilot.run first).run second := by
  induction first generalizing autopilot with
  | nil =>
      rfl
  | cons operation rest inductionHypothesis =>
      exact inductionHypothesis (autopilot.perform operation).1

/-- What the operations of a run want sent, one after another. -/
def outputs
    (autopilot : Autopilot) :
    List AutopilotOperation → List TickOutput
  | [] => []
  | operation :: operations =>
      (autopilot.perform operation).2 :: (autopilot.perform operation).1.outputs operations

/-- Objectives that are enqueued one after another are enqueued together. -/
theorem run_enqueue
    (autopilot : Autopilot)
    (objectives : List Objective) :
    autopilot.run (objectives.map .enqueue) = autopilot.enqueueAll objectives := by
  induction objectives generalizing autopilot with
  | nil =>
      rfl
  | cons objective rest inductionHypothesis =>
      exact inductionHypothesis (autopilot.enqueue objective)

/-- What holds at first and survives every operation holds after every run. -/
theorem run_induction
    {property : Autopilot → Prop}
    (preserved :
      ∀ autopilot operation,
        property autopilot →
        property (autopilot.perform operation).1)
    {autopilot : Autopilot}
    (initially : property autopilot)
    (operations : List AutopilotOperation) :
    property (autopilot.run operations) := by
  induction operations generalizing autopilot with
  | nil =>
      exact initially
  | cons operation rest inductionHypothesis =>
      exact inductionHypothesis (preserved autopilot operation initially)

/-! ## What a tick does for the first objective -/

/-- When the first objective has started, or starts now. -/
def startTime
    (autopilot : Autopilot)
    (now : Instant) :
    Instant :=
  autopilot.started.getD now

/-- The report of a tick that starts an objective. -/
def startEvents
    (autopilot : Autopilot)
    (objective : Objective) :
    List AutopilotEvent :=
  if autopilot.started.isNone then
    [.started objective.label]
  else
    []

/-- A tick reports at most the start of the objective it flies. -/
theorem startEvents_eq
    (autopilot : Autopilot)
    (objective : Objective) :
    autopilot.startEvents objective = [] ∨
      autopilot.startEvents objective = [.started objective.label] := by
  unfold startEvents
  split
  · exact .inr rfl
  · exact .inl rfl

/-- The command that replaces a cleared objective, if one is due. -/
def pendingCommand (autopilot : Autopilot) : Option FlightCommand :=
  if autopilot.hoverPending then
    some .hover
  else
    none

/-- The command of a tick that does not drain the queue. -/
def wantedCommand
    (autopilot : Autopilot)
    (objective : Objective)
    (record : Option NavigationRecord) :
    Option FlightCommand :=
  match objective.action? with
  | some _ =>
      if autopilot.started.isNone then
        some .hover
      else
        autopilot.pendingCommand
  | none => some (objective.evaluate record).command

/-- The action of a tick: that of an objective which starts in it. -/
def wantedAction
    (autopilot : Autopilot)
    (objective : Objective) :
    Option DiscreteAction :=
  if autopilot.started.isNone then
    objective.action?
  else
    none

/-- Whether the intents of an objective let it end before its budget. -/
def isComplete
    (objective : Objective)
    (record : Option NavigationRecord) :
    Bool :=
  match objective.action? with
  | some _ => false
  | none => (objective.evaluate record).complete

/-- Why a tick retires the first objective, if it does. -/
def dueRetirement?
    (autopilot : Autopilot)
    (objective : Objective)
    (now : Instant)
    (record : Option NavigationRecord) :
    Option RetireReason :=
  retirement? objective (now.since (autopilot.startTime now)) (isComplete objective record)

/-! ## What a tick can do -/

/-- Everything that a tick can do. -/
inductive TickCase
    (autopilot : Autopilot)
    (now : Instant)
    (record : Option NavigationRecord) :
    Autopilot × TickOutput → Prop where
  /-- An idle autopilot does nothing. -/
  | idle
      (inactive : autopilot.active = false) :
      TickCase autopilot now record (autopilot, .quiet)
  /-- Without an objective only a pending hover command is sent. -/
  | waiting
      (active : autopilot.active = true)
      (empty : autopilot.queue = []) :
      TickCase autopilot now record
        ( { autopilot with hoverPending := false },
          { TickOutput.quiet with command := autopilot.pendingCommand } )
  /-- The first objective starts or goes on. -/
  | pursuing
      (objective : Objective)
      (others : List Objective)
      (active : autopilot.active = true)
      (queued : autopilot.queue = objective :: others)
      (goesOn : autopilot.dueRetirement? objective now record = none) :
      TickCase autopilot now record
        ( { autopilot with
            started := some (autopilot.startTime now)
            hoverPending := false },
          { command := autopilot.wantedCommand objective record
            action := autopilot.wantedAction objective
            events := autopilot.startEvents objective } )
  /-- The first objective is retired and another one is next. -/
  | retiring
      (objective next : Objective)
      (others : List Objective)
      (reason : RetireReason)
      (active : autopilot.active = true)
      (queued : autopilot.queue = objective :: next :: others)
      (due : autopilot.dueRetirement? objective now record = some reason) :
      TickCase autopilot now record
        ( { autopilot with
            queue := next :: others
            started := none
            hoverPending := false },
          { command := autopilot.wantedCommand objective record
            action := autopilot.wantedAction objective
            events :=
              autopilot.startEvents objective ++ [.retired objective.label reason] } )
  /-- The last objective is retired; the autopilot hovers and becomes idle. -/
  | draining
      (objective : Objective)
      (reason : RetireReason)
      (active : autopilot.active = true)
      (queued : autopilot.queue = [objective])
      (due : autopilot.dueRetirement? objective now record = some reason) :
      TickCase autopilot now record
        ( { queue := []
            started := none
            active := false
            hoverPending := false },
          { command := some .hover
            action := autopilot.wantedAction objective
            events :=
              autopilot.startEvents objective ++
                [.retired objective.label reason, .outOfObjectives] } )

theorem drive_eq
    (autopilot : Autopilot)
    (objective : Objective)
    (record : Option NavigationRecord)
    (events : List AutopilotEvent) :
    drive objective autopilot.started.isNone record
        { command := autopilot.pendingCommand
          action := none
          events := events } =
      ( { command := autopilot.wantedCommand objective record
          action := autopilot.wantedAction objective
          events := events },
        isComplete objective record ) := by
  cases action : objective.action? with
  | none =>
      simp [drive, wantedCommand, wantedAction, isComplete, action]
  | some sent =>
      cases fresh : autopilot.started.isNone <;>
        simp [drive, wantedCommand, wantedAction, isComplete, action, fresh]

/--
A tick of an active autopilot with a queue flies the first objective and retires it when that is
due.
-/
theorem tick_of_queue
    {autopilot : Autopilot}
    {objective : Objective}
    {others : List Objective}
    (active : autopilot.active = true)
    (queued : autopilot.queue = objective :: others)
    (now : Instant)
    (record : Option NavigationRecord) :
    autopilot.tick now record =
      match autopilot.dueRetirement? objective now record with
      | none =>
          ( { autopilot with
              started := some (autopilot.startTime now)
              hoverPending := false },
            { command := autopilot.wantedCommand objective record
              action := autopilot.wantedAction objective
              events := autopilot.startEvents objective } )
      | some reason =>
          retire
            { autopilot with
              started := some (autopilot.startTime now)
              hoverPending := false }
            { command := autopilot.wantedCommand objective record
              action := autopilot.wantedAction objective
              events := autopilot.startEvents objective }
            objective.label reason := by
  have quiet :
      (if autopilot.hoverPending then
        { TickOutput.quiet with command := some FlightCommand.hover }
      else
        TickOutput.quiet) =
        { TickOutput.quiet with command := autopilot.pendingCommand } := by
    unfold pendingCommand
    split <;> rfl
  have reported :
      (if autopilot.started.isNone then
        { TickOutput.quiet with
          command := autopilot.pendingCommand
          events := [.started objective.label] }
      else
        { TickOutput.quiet with command := autopilot.pendingCommand }) =
        { command := autopilot.pendingCommand
          action := none
          events := autopilot.startEvents objective } := by
    unfold startEvents
    split <;> rfl
  simp only [tick, active, ↓reduceIte, queued, pursue, quiet]
  rw [reported, drive_eq]
  rfl

/-- A tick of an active autopilot without a queue has the drone hover once and says so. -/
theorem tick_of_empty
    {autopilot : Autopilot}
    (active : autopilot.active = true)
    (empty : autopilot.queue = [])
    (now : Instant)
    (record : Option NavigationRecord) :
    autopilot.tick now record =
      ( { autopilot with hoverPending := false },
        { TickOutput.quiet with command := autopilot.pendingCommand } ) := by
  cases pending : autopilot.hoverPending <;>
    simp [tick, active, empty, pendingCommand, pending, TickOutput.quiet]

/-- Every tick is one of the five cases. -/
theorem tickCase
    (autopilot : Autopilot)
    (now : Instant)
    (record : Option NavigationRecord) :
    TickCase autopilot now record (autopilot.tick now record) := by
  cases active : autopilot.active with
  | false =>
      have still : autopilot.tick now record = (autopilot, .quiet) := by
        simp [tick, active]
      rw [still]
      exact .idle active
  | true =>
      match queued : autopilot.queue with
      | [] =>
          rw [tick_of_empty active queued]
          exact .waiting active queued
      | objective :: others =>
          rw [tick_of_queue active queued]
          cases due : autopilot.dueRetirement? objective now record with
          | none =>
              exact .pursuing objective others active queued due
          | some reason =>
              cases others with
              | nil =>
                  simpa [retire, queued] using
                    TickCase.draining objective reason active queued due
              | cons next others =>
                  simpa [retire, queued] using
                    TickCase.retiring objective next others reason active queued due

/-! ## The objectives of the queue -/

/-- A tick adds no objective. -/
theorem queue_tick_subset
    (autopilot : Autopilot)
    (now : Instant)
    (record : Option NavigationRecord) :
    (autopilot.tick now record).1.queue ⊆ autopilot.queue := by
  have ticked := autopilot.tickCase now record
  generalize autopilot.tick now record = result at ticked ⊢
  cases ticked with
  | idle | waiting | pursuing =>
      exact List.Subset.refl _
  | retiring objective next others reason active queued =>
      rw [queued]
      exact List.subset_cons_self objective _
  | draining =>
      exact List.nil_subset _

/-- What all enqueued objectives have in common, all objectives of the queue have in common. -/
theorem forall_queue_run
    {property : Objective → Prop}
    {autopilot : Autopilot}
    {operations : List AutopilotOperation}
    (initially : ∀ objective ∈ autopilot.queue, property objective)
    (enqueued : ∀ objective, .enqueue objective ∈ operations → property objective) :
    ∀ objective ∈ (autopilot.run operations).queue, property objective := by
  induction operations generalizing autopilot with
  | nil =>
      exact initially
  | cons operation rest inductionHypothesis =>
      have later : ∀ objective, .enqueue objective ∈ rest → property objective :=
        fun objective member => enqueued objective (List.mem_cons_of_mem operation member)
      apply inductionHypothesis _ later
      cases operation with
      | enqueue added =>
          intro objective member
          rcases List.mem_append.mp member with before | last
          · exact initially objective before
          · rw [List.mem_singleton.mp last]
            exact enqueued added List.mem_cons_self
      | clear =>
          intro objective member
          cases member
      | setActive active =>
          cases active <;> exact initially
      | tick now record =>
          intro objective member
          exact initially objective (autopilot.queue_tick_subset now record member)

end Autopilot

end DroneSession
