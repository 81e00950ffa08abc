import DroneSession.Proofs.Autopilot.Coherence

namespace DroneSession

/-!
# Logs of the autopilot

A log holds the calls of a run and, behind each call, the events that it raised.  `Tracks` reads a
log from left to right and remembers the label of the objective in progress; it accepts exactly the
logs in which starts, retirements and interruptions take turns.  The log of every run is accepted,
and the label that is remembered at its end is that of the objective in progress.
-/

/-- An entry of a log. -/
inductive LogEntry where
  | call (operation : AutopilotOperation)
  | event (event : AutopilotEvent)

namespace LogEntry

/-- Whether an entry is a call that abandons the objective in progress. -/
def interrupts : LogEntry → Bool
  | .call .clear => true
  | .call (.setActive false) => true
  | _ => false

/-- Whether an entry neither starts, retires nor interrupts an objective. -/
def isNeutral : LogEntry → Bool
  | .call .clear => false
  | .call (.setActive false) => false
  | .event (.started _) => false
  | .event (.retired ..) => false
  | _ => true

/-- An objective is interrupted by clearing the queue or by deactivating. -/
theorem interrupts_iff
    {entry : LogEntry} :
    entry.interrupts = true ↔
      entry = .call .clear ∨ entry = .call (.setActive false) := by
  cases entry with
  | call operation =>
      cases operation with
      | setActive active =>
          cases active <;> simp [interrupts]
      | enqueue | clear | tick =>
          simp [interrupts]
  | event event =>
      simp [interrupts]

/-- An entry that does nothing to objectives interrupts none. -/
theorem interrupts_eq_false_of_isNeutral
    {entry : LogEntry}
    (neutral : entry.isNeutral = true) :
    entry.interrupts = false := by
  apply Bool.eq_false_iff.mpr
  intro interrupts
  rcases interrupts_iff.mp interrupts with rfl | rfl
  · cases neutral
  · cases neutral

end LogEntry

/-- Read a log, given the label in progress before it and the one in progress behind it. -/
inductive Tracks : Option String → List LogEntry → Option String → Prop where
  | nil
      (current : Option String) :
      Tracks current [] current
  | neutral
      {current final : Option String}
      {entry : LogEntry}
      {rest : List LogEntry}
      (neutral : entry.isNeutral = true)
      (tail : Tracks current rest final) :
      Tracks current (entry :: rest) final
  | started
      {final : Option String}
      {rest : List LogEntry}
      (label : String)
      (tail : Tracks (some label) rest final) :
      Tracks none (.event (.started label) :: rest) final
  | retired
      {final : Option String}
      {rest : List LogEntry}
      (label : String)
      (reason : RetireReason)
      (tail : Tracks none rest final) :
      Tracks (some label) (.event (.retired label reason) :: rest) final
  | interrupted
      {current final : Option String}
      {entry : LogEntry}
      {rest : List LogEntry}
      (interrupts : entry.interrupts = true)
      (tail : Tracks none rest final) :
      Tracks current (entry :: rest) final

namespace Tracks

theorem append
    {current middle final : Option String}
    {first second : List LogEntry}
    (firstRead : Tracks current first middle)
    (secondRead : Tracks middle second final) :
    Tracks current (first ++ second) final := by
  induction firstRead with
  | nil current =>
      exact secondRead
  | neutral neutral tail inductionHypothesis =>
      exact .neutral neutral (inductionHypothesis secondRead)
  | started label tail inductionHypothesis =>
      exact .started label (inductionHypothesis secondRead)
  | retired label reason tail inductionHypothesis =>
      exact .retired label reason (inductionHypothesis secondRead)
  | interrupted interrupts tail inductionHypothesis =>
      exact .interrupted interrupts (inductionHypothesis secondRead)

/-- A log that is read is read up to every position. -/
theorem split
    {current final : Option String}
    {first second : List LogEntry}
    (read : Tracks current (first ++ second) final) :
    ∃ middle, Tracks current first middle ∧ Tracks middle second final := by
  induction first generalizing current with
  | nil =>
      exact ⟨current, .nil current, read⟩
  | cons entry rest inductionHypothesis =>
      cases read with
      | neutral neutral tail =>
          obtain ⟨middle, restRead, secondRead⟩ := inductionHypothesis tail
          exact ⟨middle, .neutral neutral restRead, secondRead⟩
      | started label tail =>
          obtain ⟨middle, restRead, secondRead⟩ := inductionHypothesis tail
          exact ⟨middle, .started label restRead, secondRead⟩
      | retired label reason tail =>
          obtain ⟨middle, restRead, secondRead⟩ := inductionHypothesis tail
          exact ⟨middle, .retired label reason restRead, secondRead⟩
      | interrupted interrupts tail =>
          obtain ⟨middle, restRead, secondRead⟩ := inductionHypothesis tail
          exact ⟨middle, .interrupted interrupts restRead, secondRead⟩

/-- An objective that is no longer in progress was retired or interrupted. -/
theorem retired_or_interrupted
    {label : String}
    {entries : List LogEntry}
    (read : Tracks (some label) entries none) :
    (∃ reason, .event (.retired label reason) ∈ entries) ∨
      ∃ entry ∈ entries, entry.interrupts = true := by
  induction entries with
  | nil =>
      cases read
  | cons entry rest inductionHypothesis =>
      cases read with
      | neutral neutral tail =>
          rcases inductionHypothesis tail with ⟨reason, member⟩ | ⟨found, member, interrupts⟩
          · exact .inl ⟨reason, List.mem_cons_of_mem _ member⟩
          · exact .inr ⟨found, List.mem_cons_of_mem _ member, interrupts⟩
      | retired label reason tail =>
          exact .inl ⟨reason, List.mem_cons_self⟩
      | interrupted interrupts tail =>
          exact .inr ⟨entry, List.mem_cons_self, interrupts⟩

/--
An objective in progress behind a log was so before it, or the log starts it; since then the log
has only neutral entries.
-/
theorem in_progress_or_started
    {current final : Option String}
    {entries : List LogEntry}
    (read : Tracks current entries final)
    {label : String}
    (inProgress : final = some label) :
    (current = some label ∧ ∀ entry ∈ entries, entry.isNeutral = true) ∨
      ∃ earlier later,
        entries = earlier ++ .event (.started label) :: later ∧
          ∀ entry ∈ later, entry.isNeutral = true := by
  induction read with
  | nil current =>
      exact .inl ⟨inProgress, by simp⟩
  | @neutral current final entry rest neutral tail inductionHypothesis =>
      rcases inductionHypothesis inProgress with ⟨same, neutrals⟩ | ⟨earlier, later, shape, neutrals⟩
      · exact .inl ⟨same, List.forall_mem_cons.mpr ⟨neutral, neutrals⟩⟩
      · exact .inr ⟨entry :: earlier, later, by rw [shape, List.cons_append], neutrals⟩
  | @started final rest started tail inductionHypothesis =>
      rcases inductionHypothesis inProgress with ⟨same, neutrals⟩ | ⟨earlier, later, shape, neutrals⟩
      · cases same
        exact .inr ⟨[], rest, rfl, neutrals⟩
      · exact .inr ⟨_ :: earlier, later, by rw [shape, List.cons_append], neutrals⟩
  | retired label reason tail inductionHypothesis =>
      rcases inductionHypothesis inProgress with ⟨same, _⟩ | ⟨earlier, later, shape, neutrals⟩
      · cases same
      · exact .inr ⟨_ :: earlier, later, by rw [shape, List.cons_append], neutrals⟩
  | interrupted interrupts tail inductionHypothesis =>
      rcases inductionHypothesis inProgress with ⟨same, _⟩ | ⟨earlier, later, shape, neutrals⟩
      · cases same
      · exact .inr ⟨_ :: earlier, later, by rw [shape, List.cons_append], neutrals⟩

end Tracks

namespace Autopilot

/-- A call and the events that it raises. -/
def entries
    (autopilot : Autopilot)
    (operation : AutopilotOperation) :
    List LogEntry :=
  .call operation :: (autopilot.perform operation).2.events.map .event

/-- The calls of a run with the events that they raise. -/
def log
    (autopilot : Autopilot) :
    List AutopilotOperation → List LogEntry
  | [] => []
  | operation :: operations =>
      autopilot.entries operation ++ (autopilot.perform operation).1.log operations

theorem log_append
    (autopilot : Autopilot)
    (first second : List AutopilotOperation) :
    autopilot.log (first ++ second) =
      autopilot.log first ++ (autopilot.run first).log second := by
  induction first generalizing autopilot with
  | nil =>
      rfl
  | cons operation rest inductionHypothesis =>
      simp [log, run, inductionHypothesis]

theorem log_concat
    (autopilot : Autopilot)
    (operations : List AutopilotOperation)
    (operation : AutopilotOperation) :
    autopilot.log (operations ++ [operation]) =
      autopilot.log operations ++ (autopilot.run operations).entries operation := by
  simp [log_append, log]

/-- The label of the objective in progress. -/
def currentLabel? (autopilot : Autopilot) : Option String :=
  autopilot.inProgress?.map Objective.label

/-- Without a start no label is in progress. -/
theorem currentLabel?_of_not_started
    {autopilot : Autopilot}
    (waiting : autopilot.started = none) :
    autopilot.currentLabel? = none := by
  simp [currentLabel?, inProgress?, waiting]

/-- A start makes the label of the first objective the one in progress. -/
theorem currentLabel?_of_started
    {autopilot : Autopilot}
    {objective : Objective}
    {others : List Objective}
    (started : autopilot.started.isSome = true)
    (queued : autopilot.queue = objective :: others) :
    autopilot.currentLabel? = some objective.label := by
  obtain ⟨instant, same⟩ := Option.isSome_iff_exists.mp started
  simp [currentLabel?, inProgress?, same, queued]

/-- With what a tick reports of its start, the objective it flies is the one in progress. -/
theorem startEvents_tracked
    {autopilot : Autopilot}
    {objective : Objective}
    {others : List Objective}
    (queued : autopilot.queue = objective :: others) :
    Tracks autopilot.currentLabel?
      ((autopilot.startEvents objective).map .event) (some objective.label) := by
  cases started : autopilot.started with
  | none =>
      rw [currentLabel?_of_not_started started]
      simp only [startEvents, started, Option.isNone_none, ↓reduceIte, List.map_cons,
        List.map_nil]
      exact .started objective.label (.nil _)
  | some instant =>
      rw [currentLabel?_of_started (by simp [started]) queued]
      simp only [startEvents, started, Option.isNone_some, Bool.false_eq_true, ↓reduceIte,
        List.map_nil]
      exact .nil _

/-- The events of a tick lead from the objective in progress before it to that behind it. -/
theorem tick_tracked
    (autopilot : Autopilot)
    (now : Instant)
    (record : Option NavigationRecord) :
    Tracks autopilot.currentLabel?
      ((autopilot.tick now record).2.events.map .event)
      (autopilot.tick now record).1.currentLabel? := by
  have ticked := autopilot.tickCase now record
  generalize autopilot.tick now record = result at ticked ⊢
  cases ticked with
  | idle inactive =>
      exact .nil _
  | waiting active empty =>
      exact .nil _
  | pursuing objective others active queued goesOn =>
      have inProgress :
          currentLabel?
              { autopilot with
                started := some (autopilot.startTime now)
                hoverPending := false } =
            some objective.label :=
        currentLabel?_of_started rfl queued
      simpa only [inProgress] using startEvents_tracked queued
  | retiring objective next others reason active queued due =>
      rw [List.map_append]
      exact (startEvents_tracked queued).append (.retired _ reason (.nil none))
  | draining objective reason active queued due =>
      rw [List.map_append]
      exact
        (startEvents_tracked queued).append
          (.retired _ reason (.neutral rfl (.nil none)))

/-- Another objective in the queue does not change the label in progress. -/
theorem currentLabel?_enqueue
    {autopilot : Autopilot}
    (coherent : autopilot.Coherent)
    (objective : Objective) :
    (autopilot.enqueue objective).currentLabel? = autopilot.currentLabel? := by
  cases started : autopilot.started with
  | none =>
      rw [currentLabel?_of_not_started started]
      exact currentLabel?_of_not_started started
  | some instant =>
      have inProgress : autopilot.started.isSome = true := by
        simp [started]
      obtain ⟨first, others, queued⟩ :=
        List.exists_cons_of_ne_nil (coherent.inProgress inProgress).2
      rw [currentLabel?_of_started inProgress queued]
      have appended :
          (autopilot.enqueue objective).queue = first :: (others ++ [objective]) := by
        simp [enqueue, queued]
      exact currentLabel?_of_started inProgress appended

/-- Every operation adds entries that lead from one objective in progress to the next. -/
theorem entries_tracked
    {autopilot : Autopilot}
    (coherent : autopilot.Coherent)
    (operation : AutopilotOperation) :
    Tracks autopilot.currentLabel? (autopilot.entries operation)
      (autopilot.perform operation).1.currentLabel? := by
  cases operation with
  | enqueue objective =>
      refine .neutral rfl ?_
      rw [show (autopilot.perform (.enqueue objective)).1.currentLabel? =
        autopilot.currentLabel? from currentLabel?_enqueue coherent objective]
      exact .nil _
  | clear =>
      exact .interrupted rfl (.nil none)
  | setActive active =>
      cases active with
      | false =>
          exact .interrupted rfl (.nil none)
      | true =>
          exact .neutral rfl (.nil _)
  | tick now record =>
      exact .neutral rfl (tick_tracked autopilot now record)

/-- The log of every run is accepted, and remembers the label that is in progress at its end. -/
theorem log_tracked
    {autopilot : Autopilot}
    (coherent : autopilot.Coherent)
    (operations : List AutopilotOperation) :
    Tracks autopilot.currentLabel? (autopilot.log operations)
      (autopilot.run operations).currentLabel? := by
  induction operations generalizing autopilot with
  | nil =>
      exact .nil _
  | cons operation rest inductionHypothesis =>
      exact
        (entries_tracked coherent operation).append
          (inductionHypothesis (coherent.perform operation))

end Autopilot

end DroneSession
