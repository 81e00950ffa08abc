import Mathlib.Data.List.Induction
import DroneSession.Proofs.Autopilot.Flight

namespace DroneSession

/-!
# Stale commands

A drone goes on with the last command that it was sent.  Becoming idle and running out of objectives
end with a hover command, and so does the tick that follows upon clearing an objective in progress.
Between two objectives nothing is in progress, though the drone still flies the command of the one
that was just retired: clearing the queue there leaves it flying that command.  `Stranded` describes
these flights, and the main result says that there are no others.
-/

namespace FlightOperation

/-- Whether an operation discards the queue, unless it is refused. -/
def discards : FlightOperation → Bool
  | .clear => true
  | .loadMission _ => true
  | _ => false

end FlightOperation

namespace Autopilot

/-- A tick retires an objective, wants a command and leaves others queued. -/
structure RetiresFlying
    (autopilot : Autopilot)
    (now : Instant)
    (record : Option NavigationRecord)
    (command : FlightCommand) : Prop where
  flying : (autopilot.tick now record).2.command = some command
  retires :
    ∃ label reason, .retired label reason ∈ (autopilot.tick now record).2.events
  leavesOthers : (autopilot.tick now record).1.queue ≠ []

/-- An objective that sends an action makes the drone hover when it starts, and sends no more. -/
theorem wantedCommand_of_action
    (autopilot : Autopilot)
    {objective : Objective}
    (record : Option NavigationRecord)
    (action : objective.action?.isSome = true) :
    autopilot.wantedCommand objective record = some .hover ∨
      autopilot.wantedCommand objective record = none ∧ autopilot.started.isSome = true := by
  obtain ⟨sent, same⟩ := Option.isSome_iff_exists.mp action
  cases started : autopilot.started <;> cases pending : autopilot.hoverPending <;>
    simp [wantedCommand, pendingCommand, same, started, pending]

/-- Only an objective in progress that sends an action wants no command. -/
theorem action_of_wantedCommand_none
    {autopilot : Autopilot}
    {objective : Objective}
    {record : Option NavigationRecord}
    (unsent : autopilot.wantedCommand objective record = none) :
    objective.action?.isSome = true ∧ autopilot.started.isSome = true := by
  cases action : objective.action? with
  | none =>
      simp [wantedCommand, action] at unsent
  | some sent =>
      cases started : autopilot.started with
      | none =>
          simp [wantedCommand, action, started] at unsent
      | some instant =>
          exact ⟨rfl, rfl⟩

/-- A tick that retires an objective leaves none in progress and no hover command pending. -/
theorem RetiresFlying.leavesGap
    {autopilot : Autopilot}
    {now : Instant}
    {record : Option NavigationRecord}
    {command : FlightCommand}
    (retirement : autopilot.RetiresFlying now record command) :
    (autopilot.tick now record).1.active = true ∧
      (autopilot.tick now record).1.started = none ∧
      (autopilot.tick now record).1.hoverPending = false := by
  obtain ⟨-, ⟨label, reason, member⟩, leavesOthers⟩ := retirement
  have ticked := autopilot.tickCase now record
  generalize autopilot.tick now record = result at ticked member leavesOthers ⊢
  cases ticked with
  | idle | waiting =>
      simp [TickOutput.quiet] at member
  | pursuing objective =>
      unfold startEvents at member
      split at member <;> simp at member
  | retiring _ _ _ _ active =>
      exact ⟨active, rfl, rfl⟩
  | draining =>
      exact (leavesOthers rfl).elim

end Autopilot

namespace FlightDeck

/-- Operations that cannot make the deck send a command. -/
def IsSilent (deck : FlightDeck) : FlightOperation → Prop
  | .setActive active => active = true
  | .step .. => deck.autopilot.queue = []
  | _ => True

/--
A flight ends with a step that retires an objective flying a command while others are queued, and
with silent operations behind that step.
-/
inductive LeftFlying (command : FlightCommand) :
    List FlightOperation → List FlightOperation → Prop where
  | retired
      {operations : List FlightOperation}
      {now : Instant}
      {record : Option NavigationRecord}
      {actionFault : Option StreamFault}
      (retires :
        (ready.fly operations).autopilot.RetiresFlying now record command) :
      LeftFlying command (operations ++ [.step now record actionFault]) []
  | silent
      {operations after : List FlightOperation}
      {operation : FlightOperation}
      (earlier : LeftFlying command operations after)
      (silent : (ready.fly operations).IsSilent operation) :
      LeftFlying command (operations ++ [operation]) (after ++ [operation])

/--
An objective was retired flying a command, the queue was discarded before the next objective
started, and no command was sent since.
-/
def Stranded
    (operations : List FlightOperation)
    (command : FlightCommand) : Prop :=
  ∃ after,
    LeftFlying command operations after ∧
      ∃ operation ∈ after, operation.discards = true

/-- The client flies a command that no later tick will replace while the queue is empty. -/
structure Adrift
    (deck : FlightDeck)
    (command : FlightCommand) : Prop where
  flying : deck.lastCommand? = some command
  active : deck.autopilot.active = true
  notStarted : deck.autopilot.started = none
  noHover : deck.autopilot.hoverPending = false

/-- A silent operation leaves the client flying what it flies. -/
theorem Adrift.perform
    {deck : FlightDeck}
    {command : FlightCommand}
    (steady : deck.Steady)
    (adrift : deck.Adrift command)
    {operation : FlightOperation}
    (silent : deck.IsSilent operation) :
    (deck.perform operation).Adrift command := by
  obtain ⟨flying, active, notStarted, noHover⟩ := adrift
  have nothingCleared : deck.autopilot.clear.hoverPending = false := by
    simp [Autopilot.clear, noHover, notStarted]
  cases operation with
  | enqueue objective =>
      exact ⟨flying, active, notStarted, noHover⟩
  | loadMission mission =>
      rw [perform_loadMission]
      split
      · simp only [withAutopilot, Autopilot.enqueueAll_eq]
        exact ⟨flying, active, rfl, nothingCleared⟩
      · exact ⟨flying, active, notStarted, noHover⟩
  | clear =>
      exact ⟨flying, active, rfl, nothingCleared⟩
  | setActive on =>
      have activating : on = true := silent
      subst activating
      exact ⟨flying, rfl, notStarted, noHover⟩
  | step now record actionFault =>
      obtain ⟨-, sameAutopilot, sameCommand, -⟩ :=
        perform_step steady now record actionFault
      rw [Autopilot.tick_of_empty active silent] at sameAutopilot sameCommand
      refine ⟨?_, ?_, ?_, ?_⟩
      · simpa [Autopilot.pendingCommand, noHover, flying] using sameCommand
      · rw [sameAutopilot]
        exact active
      · rw [sameAutopilot]
        exact notStarted
      · rw [sameAutopilot]

/-- A client that was left flying a command is adrift. -/
theorem LeftFlying.adrift
    {command : FlightCommand}
    {operations after : List FlightOperation}
    (left : LeftFlying command operations after) :
    (ready.fly operations).Adrift command := by
  induction left with
  | @retired operations now record actionFault retirement =>
      rw [fly_concat]
      obtain ⟨-, sameAutopilot, sameCommand, -⟩ :=
        perform_step (Steady.ready.fly operations) now record actionFault
      obtain ⟨active, notStarted, noHover⟩ := retirement.leavesGap
      rw [← sameAutopilot] at active notStarted noHover
      refine ⟨?_, active, notStarted, noHover⟩
      rw [sameCommand, retirement.flying, Option.some_or]
  | @silent operations after operation earlier silent inductionHypothesis =>
      rw [fly_concat]
      exact inductionHypothesis.perform (Steady.ready.fly operations) silent

/-- Without a discarding operation the objectives behind the retired one are still queued. -/
theorem LeftFlying.discarded_or_queued
    {command : FlightCommand}
    {operations after : List FlightOperation}
    (left : LeftFlying command operations after) :
    (∃ operation ∈ after, operation.discards = true) ∨
      (ready.fly operations).autopilot.queue ≠ [] := by
  induction left with
  | @retired operations now record actionFault retirement =>
      obtain ⟨-, sameAutopilot, -⟩ :=
        perform_step (Steady.ready.fly operations) now record actionFault
      rw [fly_concat, sameAutopilot]
      exact .inr retirement.leavesOthers
  | @silent operations after operation earlier silent inductionHypothesis =>
      rcases inductionHypothesis with ⟨found, member, discards⟩ | queued
      · exact .inl ⟨found, List.mem_append_left _ member, discards⟩
      · rw [fly_concat]
        cases operation with
        | enqueue objective =>
            exact .inr (by simp [perform, withAutopilot, Autopilot.enqueue])
        | loadMission mission =>
            exact .inl ⟨.loadMission mission, by simp, rfl⟩
        | clear =>
            exact .inl ⟨.clear, by simp, rfl⟩
        | setActive on =>
            have activating : on = true := silent
            subst activating
            exact .inr queued
        | step now record actionFault =>
            exact (queued silent).elim

/-- While the objective in progress is one that sends an action, the drone hovers. -/
def HoversForAction (deck : FlightDeck) : Prop :=
  ∀ {objective others},
    deck.autopilot.started.isSome = true →
    deck.autopilot.queue = objective :: others →
    objective.action?.isSome = true →
    deck.lastCommand? = some .hover

/-- A step leaves the drone hovering where it starts an objective that sends an action. -/
theorem HoversForAction.step
    {deck : FlightDeck}
    (steady : deck.Steady)
    (hovers : deck.HoversForAction)
    (now : Instant)
    (record : Option NavigationRecord)
    (actionFault : Option StreamFault) :
    (deck.perform (.step now record actionFault)).HoversForAction := by
  obtain ⟨-, sameAutopilot, sameCommand, -⟩ :=
    perform_step steady now record actionFault
  intro objective others started queued action
  rw [sameAutopilot] at started queued
  rw [sameCommand]
  have ticked := deck.autopilot.tickCase now record
  generalize deck.autopilot.tick now record = result at ticked started queued ⊢
  cases ticked with
  | idle inactive =>
      exact hovers started queued action
  | waiting active empty =>
      simp [empty] at queued
  | pursuing first rest active pursued =>
      obtain ⟨rfl, -⟩ := List.cons.inj (pursued.symm.trans queued)
      rcases Autopilot.wantedCommand_of_action deck.autopilot record action with
        sent | ⟨unsent, before⟩
      · simp [sent]
      · simp [unsent, hovers before pursued action]
  | retiring | draining =>
      simp at started

/-- No operation has the drone fly while the objective in progress is one that sends an action. -/
theorem HoversForAction.perform
    {deck : FlightDeck}
    (steady : deck.Steady)
    (coherent : deck.autopilot.Coherent)
    (hovers : deck.HoversForAction)
    (operation : FlightOperation) :
    (deck.perform operation).HoversForAction := by
  cases operation with
  | enqueue objective =>
      intro first others started queued action
      obtain ⟨current, rest, before⟩ :=
        List.exists_cons_of_ne_nil (coherent.inProgress started).2
      have appended : current :: (rest ++ [objective]) = first :: others := by
        simpa [FlightDeck.perform, withAutopilot, Autopilot.enqueue, before] using queued
      obtain ⟨rfl, -⟩ := List.cons.inj appended
      exact hovers started before action
  | loadMission mission =>
      rw [perform_loadMission]
      split
      · intro first others started
        simp [withAutopilot, Autopilot.enqueueAll_eq, Autopilot.clear] at started
      · exact hovers
  | clear =>
      intro first others started
      simp [FlightDeck.perform, withAutopilot, Autopilot.clear] at started
  | setActive active =>
      cases active with
      | false =>
          intro first others started
          simp [(perform_deactivate steady).2.1, Autopilot.setActive] at started
      | true =>
          exact hovers
  | step now record actionFault =>
      exact hovers.step steady now record actionFault

/-- After every flight the drone hovers for an objective in progress that sends an action. -/
theorem hoversForAction_fly
    (operations : List FlightOperation) :
    (ready.fly operations).HoversForAction := by
  induction operations using List.reverseRecOn with
  | nil =>
      intro objective others started
      simp [fly, ready, Autopilot.start] at started
  | append_singleton operations operation inductionHypothesis =>
      rw [fly_concat]
      exact
        inductionHypothesis.perform (Steady.ready.fly operations)
          (coherent_fly Steady.ready Autopilot.Coherent.start operations) operation

/--
A command other than hover belongs to the objective in progress, will be replaced by the pending
hover command, or is one that the client was left flying.
-/
def AccountsForCommand (operations : List FlightOperation) : Prop :=
  ∀ command,
    command ≠ .hover →
    (ready.fly operations).lastCommand? = some command →
    (ready.fly operations).autopilot.started = none →
    (ready.fly operations).autopilot.hoverPending = false →
    ∃ after, LeftFlying command operations after

/-- A step accounts for the command that the client flies behind it. -/
theorem AccountsForCommand.step
    {operations : List FlightOperation}
    (accounts : AccountsForCommand operations)
    (now : Instant)
    (record : Option NavigationRecord)
    (actionFault : Option StreamFault) :
    AccountsForCommand (operations ++ [.step now record actionFault]) := by
  obtain ⟨-, sameAutopilot, sameCommand, -⟩ :=
    perform_step (Steady.ready.fly operations) now record actionFault
  intro command moving flying notStarted noHover
  rw [fly_concat] at flying notStarted noHover
  rw [sameAutopilot] at notStarted noHover
  rw [sameCommand] at flying
  have ticked := (ready.fly operations).autopilot.tickCase now record
  generalize same : (ready.fly operations).autopilot.tick now record = result at *
  cases ticked with
  | idle inactive =>
      -- A client that was left flying is bound to an active autopilot.
      obtain ⟨after, left⟩ := accounts command moving flying notStarted noHover
      rw [left.adrift.active] at inactive
      cases inactive
  | waiting active empty =>
      cases pending : (ready.fly operations).autopilot.hoverPending with
      | false =>
          have unsent : (ready.fly operations).autopilot.pendingCommand = none := by
            simp [Autopilot.pendingCommand, pending]
          simp only [unsent, Option.none_or] at flying
          obtain ⟨after, left⟩ := accounts command moving flying notStarted pending
          exact ⟨_, left.silent empty⟩
      | true =>
          have sent : (ready.fly operations).autopilot.pendingCommand = some .hover := by
            simp [Autopilot.pendingCommand, pending]
          simp only [sent, Option.some_or, Option.some.injEq] at flying
          exact (moving flying.symm).elim
  | pursuing =>
      cases notStarted
  | retiring objective next others reason active queued =>
      cases wanted : (ready.fly operations).autopilot.wantedCommand objective record with
      | some sent =>
          simp only [wanted, Option.some_or] at flying
          refine ⟨[], .retired ⟨?_, ⟨objective.label, reason, ?_⟩, ?_⟩⟩
          · rw [same]
            exact wanted.trans flying
          · rw [same]
            simp
          · rw [same]
            simp
      | none =>
          -- Only an action in progress sends nothing, and the drone hovers for it.
          obtain ⟨action, started⟩ := Autopilot.action_of_wantedCommand_none wanted
          have hovering := hoversForAction_fly operations started queued action
          simp only [wanted, hovering, Option.none_or, Option.some.injEq] at flying
          exact (moving flying.symm).elim
  | draining =>
      exact (moving (Option.some.inj flying).symm).elim

/-- A silent operation accounts for the last command if it hides no gap between objectives. -/
theorem AccountsForCommand.silent
    {operations : List FlightOperation}
    (accounts : AccountsForCommand operations)
    {operation : FlightOperation}
    (silent : (ready.fly operations).IsSilent operation)
    (sameCommand :
      ((ready.fly operations).perform operation).lastCommand? =
        (ready.fly operations).lastCommand?)
    (gap :
      ((ready.fly operations).perform operation).autopilot.started = none →
      ((ready.fly operations).perform operation).autopilot.hoverPending = false →
      (ready.fly operations).autopilot.started = none ∧
        (ready.fly operations).autopilot.hoverPending = false) :
    AccountsForCommand (operations ++ [operation]) := by
  intro command moving flying notStarted noHover
  rw [fly_concat] at flying notStarted noHover
  rw [sameCommand] at flying
  obtain ⟨notStartedBefore, noHoverBefore⟩ := gap notStarted noHover
  obtain ⟨after, left⟩ := accounts command moving flying notStartedBefore noHoverBefore
  exact ⟨_, left.silent silent⟩

/-- Every operation accounts for the command that the client flies behind it. -/
theorem AccountsForCommand.append
    {operations : List FlightOperation}
    (accounts : AccountsForCommand operations)
    (operation : FlightOperation) :
    AccountsForCommand (operations ++ [operation]) := by
  have coherent : (ready.fly operations).autopilot.Coherent :=
    coherent_fly Steady.ready Autopilot.Coherent.start operations
  cases operation with
  | enqueue objective =>
      exact accounts.silent trivial rfl fun notStarted noHover => ⟨notStarted, noHover⟩
  | loadMission mission =>
      refine accounts.silent trivial ?_ ?_
      · rw [perform_loadMission]
        split <;> rfl
      · rw [perform_loadMission]
        split
        · simp only [withAutopilot, Autopilot.enqueueAll_eq]
          exact fun _ noHover => coherent.gap_of_clear noHover
        · exact fun notStarted noHover => ⟨notStarted, noHover⟩
  | clear =>
      exact accounts.silent trivial rfl fun _ noHover => coherent.gap_of_clear noHover
  | setActive active =>
      cases active with
      | false =>
          intro command moving flying
          rw [fly_concat, (perform_deactivate (Steady.ready.fly operations)).2.2] at flying
          exact (moving (Option.some.inj flying).symm).elim
      | true =>
          exact accounts.silent rfl rfl fun notStarted noHover => ⟨notStarted, noHover⟩
  | step now record actionFault =>
      exact accounts.step now record actionFault

/-- Every flight accounts for the command that the client flies behind it. -/
theorem accountsForCommand
    (operations : List FlightOperation) :
    AccountsForCommand operations := by
  induction operations using List.reverseRecOn with
  | nil =>
      intro command moving flying
      cases flying
  | append_singleton operations operation inductionHypothesis =>
      exact inductionHypothesis.append operation

/-- Without objectives the drone flies on exactly if it was stranded before. -/
theorem flying_iff_stranded
    {operations : List FlightOperation}
    (active : (ready.fly operations).autopilot.active = true)
    (empty : (ready.fly operations).autopilot.queue = [])
    (now : Instant)
    (record : Option NavigationRecord)
    (actionFault : Option StreamFault)
    {command : FlightCommand}
    (moving : command ≠ .hover) :
    (ready.fly (operations ++ [.step now record actionFault])).lastCommand? = some command ↔
      Stranded operations command := by
  obtain ⟨-, -, sameCommand, -⟩ :=
    perform_step (Steady.ready.fly operations) now record actionFault
  rw [Autopilot.tick_of_empty active empty] at sameCommand
  rw [fly_concat, sameCommand]
  constructor
  · intro flying
    have coherent : (ready.fly operations).autopilot.Coherent :=
      coherent_fly Steady.ready Autopilot.Coherent.start operations
    have notStarted : (ready.fly operations).autopilot.started = none := by
      by_contra started
      exact (coherent.inProgress (Option.isSome_iff_ne_none.mpr started)).2 empty
    cases pending : (ready.fly operations).autopilot.hoverPending with
    | true =>
        simp only [Autopilot.pendingCommand, pending, ↓reduceIte, Option.some_or,
          Option.some.injEq] at flying
        exact (moving flying.symm).elim
    | false =>
        simp only [Autopilot.pendingCommand, pending, Bool.false_eq_true, ↓reduceIte,
          Option.none_or] at flying
        obtain ⟨after, left⟩ :=
          accountsForCommand operations command moving flying notStarted pending
        rcases left.discarded_or_queued with discarded | queued
        · exact ⟨after, left, discarded⟩
        · exact (queued empty).elim
  · rintro ⟨after, left, -⟩
    simp [Autopilot.pendingCommand, left.adrift.noHover, left.adrift.flying]

/-- What an operation of a flight reports. -/
def reports
    (deck : FlightDeck)
    (operation : FlightOperation) :
    List Notification :=
  (deck.perform operation).notifications.drop deck.notifications.length

/-- A step that reports the end of the objectives sends a hover command. -/
theorem hover_of_outOfObjectives
    {deck : FlightDeck}
    (steady : deck.Steady)
    {now : Instant}
    {record : Option NavigationRecord}
    {actionFault : Option StreamFault}
    (reported :
      .autopilot .outOfObjectives ∈ deck.reports (.step now record actionFault)) :
    (deck.perform (.step now record actionFault)).lastCommand? = some .hover := by
  obtain ⟨-, -, sameCommand, sameNotifications⟩ :=
    perform_step steady now record actionFault
  rw [reports, sameNotifications, List.drop_left] at reported
  rw [sameCommand]
  have ticked := deck.autopilot.tickCase now record
  generalize deck.autopilot.tick now record = result at ticked reported ⊢
  cases ticked with
  | idle | waiting =>
      simp [TickOutput.quiet] at reported
  | pursuing objective | retiring objective =>
      rcases deck.autopilot.startEvents_eq objective with same | same <;>
        simp [same] at reported
  | draining =>
      rfl

/--
When the drone hovers after a flight.

Becoming idle and running out of objectives end with a hover command.  A step of an active autopilot
without objectives leaves the drone flying another command exactly if it was stranded with it.
-/
structure HoversUnlessStranded (operations : List FlightOperation) : Prop where
  afterDeactivation :
    (ready.fly (operations ++ [.setActive false])).lastCommand? = some .hover
  afterObjectives :
    ∀ {now record actionFault},
      .autopilot .outOfObjectives ∈
        (ready.fly operations).reports (.step now record actionFault) →
      (ready.fly (operations ++ [.step now record actionFault])).lastCommand? = some .hover
  withoutObjectives :
    (ready.fly operations).autopilot.active = true →
    (ready.fly operations).autopilot.queue = [] →
    ∀ now record actionFault {command},
      command ≠ .hover →
      ((ready.fly (operations ++ [.step now record actionFault])).lastCommand? = some command ↔
        Stranded operations command)

/-- Every flight leaves the drone hovering unless it strands it between two objectives. -/
theorem hoversUnlessStranded
    (operations : List FlightOperation) :
    HoversUnlessStranded operations where
  afterDeactivation := by
    rw [fly_concat]
    exact (perform_deactivate (Steady.ready.fly operations)).2.2
  afterObjectives := by
    intro now record actionFault reported
    rw [fly_concat]
    exact hover_of_outOfObjectives (Steady.ready.fly operations) reported
  withoutObjectives := by
    intro active empty now record actionFault command moving
    exact flying_iff_stranded active empty now record actionFault moving

/-- An objective that climbs and ends in the tick in which it starts. -/
def climb : Objective where
  givenLabel := none
  budget := .zero
  task := .steer [(Intent.verticalSpeed 1.0).goal]
  earlyExit := false

/-- A flight that clears the queue when its first objective is retired and the next is waiting. -/
def clearedInGap : List FlightOperation :=
  [ .enqueue climb,
    .enqueue climb,
    .setActive true,
    .step ⟨0⟩ none none,
    .clear ]

/-- Clearing between two objectives leaves the drone climbing, and the next step sends nothing. -/
theorem climbs_on_after_clearing_in_gap :
    (ready.fly clearedInGap).autopilot.active = true ∧
      (ready.fly clearedInGap).autopilot.queue = [] ∧
      (ready.fly (clearedInGap ++ [.step ⟨10⟩ none none])).lastCommand? ≠ none ∧
      (ready.fly (clearedInGap ++ [.step ⟨10⟩ none none])).lastCommand? ≠ some .hover := by
  have climbing :
      (ready.fly (clearedInGap ++ [.step ⟨10⟩ none none])).lastCommand?.map FlightCommand.gaz =
        some 1.0 := by
    decide +kernel
  have still : FlightCommand.hover.gaz ≠ 1.0 := by
    decide +kernel
  refine ⟨rfl, rfl, ?_, ?_⟩
  · intro unsent
    rw [unsent] at climbing
    cases climbing
  · intro hovering
    rw [hovering] at climbing
    exact still (Option.some.inj climbing)

end FlightDeck

end DroneSession
