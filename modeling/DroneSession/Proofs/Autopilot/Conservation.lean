import DroneSession.Proofs.Autopilot.Log

namespace DroneSession

/-!
# Conservation of objectives

A ledger is kept from nothing but the log of a run: which objectives were enqueued since the queue
was last cleared, and which labels were reported as retired since then.  `Draws` reads a log with a
queue of objectives in hand; each retirement draws the first of them.  The queue of an autopilot is
always the one that its log draws, so it holds what the ledger has enqueued less what it has retired
from the front.
-/

/-- What a log says of the objectives since the queue was last cleared. -/
structure Ledger where
  /-- The objectives that were enqueued, in this order. -/
  enqueued : List Objective
  /-- The labels that were reported as retired, in this order. -/
  retired : List String

namespace Ledger

/-- The books before anything is enqueued. -/
def empty : Ledger where
  enqueued := []
  retired := []

/-- Book one entry of a log; when the queue is cleared, the books start over. -/
def book
    (ledger : Ledger) :
    LogEntry → Ledger
  | .call (.enqueue objective) => { ledger with enqueued := ledger.enqueued ++ [objective] }
  | .call .clear => empty
  | .event (.retired label _) => { ledger with retired := ledger.retired ++ [label] }
  | _ => ledger

/-- The books after all entries of a log. -/
def ofLog (log : List LogEntry) : Ledger :=
  log.foldl book empty

/-- What was enqueued and is not yet retired, if objectives are retired in their order. -/
def outstanding (ledger : Ledger) : List Objective :=
  ledger.enqueued.drop ledger.retired.length

/-- Objectives were retired in the order in which they were enqueued, and a queue holds the rest. -/
def Balances
    (ledger : Ledger)
    (queue : List Objective) :
    Prop :=
  ∃ done,
    ledger.enqueued = done ++ queue ∧
    ledger.retired = done.map Objective.label

/-- Empty books balance an empty queue. -/
theorem balances_empty : empty.Balances [] :=
  ⟨[], rfl, rfl⟩

namespace Balances

variable {ledger : Ledger} {queue : List Objective}

/-- What is outstanding in the books is in the queue. -/
theorem outstanding_eq
    (balances : ledger.Balances queue) :
    ledger.outstanding = queue := by
  obtain ⟨done, enqueued, retired⟩ := balances
  simp [outstanding, enqueued, retired]

/-- The labels that were retired are those of the objectives that were enqueued first. -/
theorem retired_eq
    (balances : ledger.Balances queue) :
    ledger.retired = (ledger.enqueued.take ledger.retired.length).map Objective.label := by
  obtain ⟨done, enqueued, retired⟩ := balances
  simp [enqueued, retired]

/-- Every objective that was enqueued is retired or still in the queue. -/
theorem length_eq
    (balances : ledger.Balances queue) :
    ledger.retired.length + queue.length = ledger.enqueued.length := by
  obtain ⟨done, enqueued, retired⟩ := balances
  simp [enqueued, retired]

end Balances

end Ledger

namespace LogEntry

/-- Whether an entry neither adds an objective to a queue nor takes one from it. -/
def keepsQueue : LogEntry → Bool
  | .call (.enqueue _) => false
  | .call .clear => false
  | .event (.retired ..) => false
  | _ => true

/-- An entry that leaves a queue alone leaves the books alone. -/
theorem book_of_keepsQueue
    {entry : LogEntry}
    (keeps : entry.keepsQueue = true)
    (ledger : Ledger) :
    ledger.book entry = ledger := by
  cases entry with
  | call operation =>
      cases operation with
      | enqueue | clear => cases keeps
      | setActive | tick => rfl
  | event event =>
      cases event with
      | retired => cases keeps
      | started | outOfObjectives => rfl

end LogEntry

/-- Read a log, given the queue before it and the one behind it. -/
inductive Draws : List Objective → List LogEntry → List Objective → Prop where
  | nil
      (queue : List Objective) :
      Draws queue [] queue
  | enqueued
      {queue final : List Objective}
      {rest : List LogEntry}
      (objective : Objective)
      (tail : Draws (queue ++ [objective]) rest final) :
      Draws queue (.call (.enqueue objective) :: rest) final
  | cleared
      {queue final : List Objective}
      {rest : List LogEntry}
      (tail : Draws [] rest final) :
      Draws queue (.call .clear :: rest) final
  | retired
      {queue final : List Objective}
      {rest : List LogEntry}
      (objective : Objective)
      (reason : RetireReason)
      (tail : Draws queue rest final) :
      Draws (objective :: queue) (.event (.retired objective.label reason) :: rest) final
  | kept
      {queue final : List Objective}
      {entry : LogEntry}
      {rest : List LogEntry}
      (keeps : entry.keepsQueue = true)
      (tail : Draws queue rest final) :
      Draws queue (entry :: rest) final

namespace Draws

theorem append
    {queue middle final : List Objective}
    {first second : List LogEntry}
    (firstRead : Draws queue first middle)
    (secondRead : Draws middle second final) :
    Draws queue (first ++ second) final := by
  induction firstRead with
  | nil queue =>
      exact secondRead
  | enqueued objective tail inductionHypothesis =>
      exact .enqueued objective (inductionHypothesis secondRead)
  | cleared tail inductionHypothesis =>
      exact .cleared (inductionHypothesis secondRead)
  | retired objective reason tail inductionHypothesis =>
      exact .retired objective reason (inductionHypothesis secondRead)
  | kept keeps tail inductionHypothesis =>
      exact .kept keeps (inductionHypothesis secondRead)

/-- A log that is read is read up to every position. -/
theorem split
    {queue final : List Objective}
    {first second : List LogEntry}
    (read : Draws queue (first ++ second) final) :
    ∃ middle, Draws queue first middle ∧ Draws middle second final := by
  induction first generalizing queue with
  | nil =>
      exact ⟨queue, .nil queue, read⟩
  | cons entry rest inductionHypothesis =>
      cases read with
      | enqueued objective tail =>
          obtain ⟨middle, restRead, secondRead⟩ := inductionHypothesis tail
          exact ⟨middle, .enqueued objective restRead, secondRead⟩
      | cleared tail =>
          obtain ⟨middle, restRead, secondRead⟩ := inductionHypothesis tail
          exact ⟨middle, .cleared restRead, secondRead⟩
      | retired objective reason tail =>
          obtain ⟨middle, restRead, secondRead⟩ := inductionHypothesis tail
          exact ⟨middle, .retired objective reason restRead, secondRead⟩
      | kept keeps tail =>
          obtain ⟨middle, restRead, secondRead⟩ := inductionHypothesis tail
          exact ⟨middle, .kept keeps restRead, secondRead⟩

/-- A log that is read keeps the books balanced. -/
theorem balances
    {queue final : List Objective}
    {log : List LogEntry}
    (read : Draws queue log final)
    {ledger : Ledger}
    (before : ledger.Balances queue) :
    (log.foldl Ledger.book ledger).Balances final := by
  induction read generalizing ledger with
  | nil queue =>
      exact before
  | enqueued objective tail inductionHypothesis =>
      apply inductionHypothesis
      obtain ⟨done, enqueued, retired⟩ := before
      exact ⟨done, by simp [Ledger.book, enqueued], retired⟩
  | cleared tail inductionHypothesis =>
      exact inductionHypothesis Ledger.balances_empty
  | retired objective reason tail inductionHypothesis =>
      apply inductionHypothesis
      obtain ⟨done, enqueued, retired⟩ := before
      exact ⟨done ++ [objective], by simp [Ledger.book, enqueued],
        by simp [Ledger.book, retired]⟩
  | kept keeps tail inductionHypothesis =>
      rw [List.foldl_cons, LogEntry.book_of_keepsQueue keeps]
      exact inductionHypothesis before

/-- A retirement that is read draws the first objective of the queue. -/
theorem exists_drawn
    {queue final : List Objective}
    {rest : List LogEntry}
    {label : String}
    {reason : RetireReason}
    (read : Draws queue (.event (.retired label reason) :: rest) final) :
    ∃ objective others,
      queue = objective :: others ∧
      objective.label = label ∧
      Draws others rest final := by
  cases read with
  | retired objective reason tail =>
      exact ⟨objective, _, rfl, rfl, tail⟩
  | kept keeps =>
      cases keeps

end Draws

namespace Autopilot

/-- The report of a start draws nothing from the queue. -/
theorem startEvents_draws
    (autopilot : Autopilot)
    (objective : Objective)
    (queue : List Objective) :
    Draws queue ((autopilot.startEvents objective).map .event) queue := by
  rcases autopilot.startEvents_eq objective with same | same
  · rw [same]
    exact .nil queue
  · rw [same]
    exact .kept rfl (.nil queue)

/-- The events of a tick draw from the queue what the tick takes from it. -/
theorem tick_draws
    (autopilot : Autopilot)
    (now : Instant)
    (record : Option NavigationRecord) :
    Draws autopilot.queue
      ((autopilot.tick now record).2.events.map .event)
      (autopilot.tick now record).1.queue := by
  have ticked := autopilot.tickCase now record
  generalize autopilot.tick now record = result at ticked ⊢
  cases ticked with
  | idle inactive =>
      exact .nil _
  | waiting active empty =>
      exact .nil _
  | pursuing objective others active queued goesOn =>
      exact autopilot.startEvents_draws objective autopilot.queue
  | retiring objective next others reason active queued due =>
      rw [List.map_append, queued]
      exact (autopilot.startEvents_draws objective _).append (.retired objective reason (.nil _))
  | draining objective reason active queued due =>
      rw [List.map_append, queued]
      exact
        (autopilot.startEvents_draws objective _).append
          (.retired objective reason (.kept rfl (.nil _)))

/-- Every operation adds entries that draw from the queue what the operation takes from it. -/
theorem entries_draws
    (autopilot : Autopilot)
    (operation : AutopilotOperation) :
    Draws autopilot.queue (autopilot.entries operation)
      (autopilot.perform operation).1.queue := by
  cases operation with
  | enqueue objective =>
      exact .enqueued objective (.nil _)
  | clear =>
      exact .cleared (.nil _)
  | setActive active =>
      cases active with
      | false =>
          exact .kept rfl (.nil _)
      | true =>
          exact .kept rfl (.nil _)
  | tick now record =>
      exact .kept rfl (autopilot.tick_draws now record)

/-- The log of a run draws from the queue what the run takes from it. -/
theorem log_draws
    (autopilot : Autopilot)
    (operations : List AutopilotOperation) :
    Draws autopilot.queue (autopilot.log operations) (autopilot.run operations).queue := by
  induction operations generalizing autopilot with
  | nil =>
      exact .nil _
  | cons operation rest inductionHypothesis =>
      exact (autopilot.entries_draws operation).append (inductionHypothesis _)

/-- The books of a run from the start. -/
def ledger (operations : List AutopilotOperation) : Ledger :=
  .ofLog (start.log operations)

/-- The books of a run balance its queue. -/
theorem ledger_balances
    (operations : List AutopilotOperation) :
    (ledger operations).Balances (start.run operations).queue :=
  (start.log_draws operations).balances Ledger.balances_empty

/-- Another objective in the queue does not put an end to the one in progress. -/
theorem inProgress?_enqueue
    {autopilot : Autopilot}
    {current : Objective}
    (inProgress : autopilot.inProgress? = some current)
    (objective : Objective) :
    (autopilot.enqueue objective).inProgress? = some current := by
  unfold inProgress? at inProgress ⊢
  cases started : autopilot.started with
  | none =>
      simp [started] at inProgress
  | some instant =>
      simp only [started] at inProgress
      obtain ⟨others, queued⟩ := List.head?_eq_some_iff.mp inProgress
      simp [enqueue, started, queued]

/-- An objective in progress is the first that was enqueued and is not yet retired. -/
theorem outstanding_of_inProgress
    {operations : List AutopilotOperation}
    {current : Objective}
    (inProgress : (start.run operations).inProgress? = some current) :
    (ledger operations).outstanding.head? = some current := by
  rw [(ledger_balances operations).outstanding_eq]
  unfold inProgress? at inProgress
  split at inProgress
  · cases inProgress
  · exact inProgress

/-- A retirement takes the first objective that was enqueued and is not yet retired. -/
theorem outstanding_of_retirement
    {operations : List AutopilotOperation}
    {earlier later : List LogEntry}
    {label : String}
    {reason : RetireReason}
    (shape : start.log operations = earlier ++ .event (.retired label reason) :: later) :
    ∃ objective others,
      (Ledger.ofLog earlier).outstanding = objective :: others ∧
      objective.label = label ∧
      (Ledger.ofLog (earlier ++ [.event (.retired label reason)])).outstanding = others := by
  have read := start.log_draws operations
  rw [shape] at read
  obtain ⟨queue, earlierRead, retirementRead⟩ := read.split
  obtain ⟨objective, others, rfl, labelled, -⟩ := retirementRead.exists_drawn
  subst labelled
  have drawn := earlierRead.append (.retired objective reason (.nil others))
  exact
    ⟨objective, others,
      (earlierRead.balances Ledger.balances_empty).outstanding_eq, rfl,
      (drawn.balances Ledger.balances_empty).outstanding_eq⟩

/-- What becomes of the objectives in a run from the start. -/
structure ConservesObjectives (operations : List AutopilotOperation) : Prop where
  /-- The queue holds what was enqueued since it was last cleared less what was retired since. -/
  queue :
    (start.run operations).queue =
      (ledger operations).enqueued.drop (ledger operations).retired.length
  /-- Objectives are retired in the order in which they were enqueued. -/
  retired :
    (ledger operations).retired =
      ((ledger operations).enqueued.take (ledger operations).retired.length).map Objective.label
  /-- Each objective is either retired, once, or still queued. -/
  accounted :
    (ledger operations).retired.length + (start.run operations).queue.length =
      (ledger operations).enqueued.length
  /-- Each retirement takes the first of those that are left, and leaves the others as they are. -/
  inOrder :
    ∀ {earlier later label reason},
      start.log operations = earlier ++ .event (.retired label reason) :: later →
      ∃ objective others,
        (Ledger.ofLog earlier).outstanding = objective :: others ∧
        objective.label = label ∧
        (Ledger.ofLog (earlier ++ [.event (.retired label reason)])).outstanding = others
  /-- The objective in progress is the first of those that are left. -/
  inProgress :
    ∀ {current},
      (start.run operations).inProgress? = some current →
      (ledger operations).outstanding.head? = some current
  setActive :
    ∀ active,
      (start.run (operations ++ [.setActive active])).queue = (start.run operations).queue
  enqueue :
    ∀ {current},
      (start.run operations).inProgress? = some current →
      ∀ objective,
        (start.run (operations ++ [.enqueue objective])).inProgress? = some current

/-- Every run of the autopilot conserves its objectives. -/
theorem conservesObjectives
    (operations : List AutopilotOperation) :
    ConservesObjectives operations where
  queue :=
    (ledger_balances operations).outstanding_eq.symm
  retired :=
    (ledger_balances operations).retired_eq
  accounted :=
    (ledger_balances operations).length_eq
  inOrder :=
    outstanding_of_retirement
  inProgress :=
    outstanding_of_inProgress
  setActive := by
    intro active
    rw [run_append]
    cases active with
    | false =>
        rfl
    | true =>
        rfl
  enqueue := by
    intro current inProgress objective
    rw [run_append]
    exact inProgress?_enqueue inProgress objective

end Autopilot

end DroneSession
