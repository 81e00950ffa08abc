import DroneSession.Proofs.Autopilot.Operation

namespace DroneSession

/-!
# Coherent autopilots

The four fields of an autopilot are not independent.  Only an active autopilot with a queue has an
objective in progress, and a hover command is pending only while no objective is.  Both facts hold
after every run from the start, and what a display shows of an autopilot rests on them.
-/

namespace Autopilot

/-- The fields of an autopilot agree with each other. -/
structure Coherent (autopilot : Autopilot) : Prop where
  /-- An objective in progress is the first of the queue of an active autopilot. -/
  inProgress :
    autopilot.started.isSome = true →
    autopilot.active = true ∧ autopilot.queue ≠ []
  /-- A pending hover command waits for the next tick of an active autopilot. -/
  pendingHover :
    autopilot.hoverPending = true →
    autopilot.active = true ∧ autopilot.started = none

/-- Appending several objectives changes nothing but the queue. -/
theorem enqueueAll_eq
    (autopilot : Autopilot)
    (objectives : List Objective) :
    autopilot.enqueueAll objectives =
      { autopilot with queue := autopilot.queue ++ objectives } := by
  induction objectives generalizing autopilot with
  | nil =>
      simp [enqueueAll]
  | cons objective rest inductionHypothesis =>
      have appended := inductionHypothesis (autopilot.enqueue objective)
      simpa [enqueueAll, enqueue] using appended

namespace Coherent

/-- A fresh autopilot is coherent. -/
theorem start : Coherent Autopilot.start where
  inProgress := by
    simp [Autopilot.start]
  pendingHover := by
    simp [Autopilot.start]

/-- An objective joins the queue behind the one in progress, if there is one. -/
theorem enqueue
    {autopilot : Autopilot}
    (coherent : autopilot.Coherent)
    (objective : Objective) :
    (autopilot.enqueue objective).Coherent where
  inProgress := by
    intro started
    exact ⟨(coherent.inProgress started).1, by simp [Autopilot.enqueue]⟩
  pendingHover :=
    coherent.pendingHover

theorem enqueueAll
    {autopilot : Autopilot}
    (coherent : autopilot.Coherent)
    (objectives : List Objective) :
    (autopilot.enqueueAll objectives).Coherent := by
  rw [enqueueAll_eq]
  refine ⟨?_, coherent.pendingHover⟩
  intro started
  exact ⟨(coherent.inProgress started).1, by simp [(coherent.inProgress started).2]⟩

/-- Clearing ends the objective in progress and has a hover command pending in its place. -/
theorem clear
    {autopilot : Autopilot}
    (coherent : autopilot.Coherent) :
    autopilot.clear.Coherent where
  inProgress := by
    simp [Autopilot.clear]
  pendingHover := by
    intro pending
    refine ⟨?_, rfl⟩
    simp only [Autopilot.clear, Bool.or_eq_true, Bool.and_eq_true] at pending
    rcases pending with waiting | interrupted
    · exact (coherent.pendingHover waiting).1
    · exact interrupted.1

/-- Clearing leaves no hover command pending only if nothing was in progress or pending. -/
theorem gap_of_clear
    {autopilot : Autopilot}
    (coherent : autopilot.Coherent)
    (noHover : autopilot.clear.hoverPending = false) :
    autopilot.started = none ∧ autopilot.hoverPending = false := by
  simp only [Autopilot.clear, Bool.or_eq_false_iff] at noHover
  refine ⟨?_, noHover.1⟩
  cases started : autopilot.started with
  | none =>
      rfl
  | some instant =>
      have active := (coherent.inProgress (by simp [started])).1
      simp [active, started] at noHover

/-- An autopilot that becomes idle has no objective in progress. -/
theorem setActive
    {autopilot : Autopilot}
    (coherent : autopilot.Coherent)
    (active : Bool) :
    (autopilot.setActive active).Coherent := by
  cases active with
  | false =>
      exact ⟨by simp [Autopilot.setActive], by simp [Autopilot.setActive]⟩
  | true =>
      refine ⟨?_, ?_⟩
      · intro started
        exact ⟨rfl, (coherent.inProgress started).2⟩
      · intro pending
        exact ⟨rfl, (coherent.pendingHover pending).2⟩

/-- A tick has an objective in progress only if the autopilot is active and has a queue. -/
theorem tick
    {autopilot : Autopilot}
    (coherent : autopilot.Coherent)
    (now : Instant)
    (record : Option NavigationRecord) :
    (autopilot.tick now record).1.Coherent := by
  have ticked := autopilot.tickCase now record
  generalize autopilot.tick now record = result at ticked ⊢
  cases ticked with
  | idle inactive =>
      exact coherent
  | waiting active empty =>
      exact ⟨coherent.inProgress, by simp⟩
  | pursuing objective others active queued goesOn =>
      exact ⟨by simp [active, queued], by simp⟩
  | retiring objective next others reason active queued due =>
      exact ⟨by simp, by simp⟩
  | draining objective reason active queued due =>
      exact ⟨by simp, by simp⟩

/-- No operation makes the fields of an autopilot disagree. -/
theorem perform
    {autopilot : Autopilot}
    (coherent : autopilot.Coherent)
    (operation : AutopilotOperation) :
    (autopilot.perform operation).1.Coherent := by
  cases operation with
  | enqueue objective =>
      exact coherent.enqueue objective
  | clear =>
      exact coherent.clear
  | setActive active =>
      exact coherent.setActive active
  | tick now record =>
      exact coherent.tick now record

/-- Every run keeps an autopilot coherent. -/
theorem run
    {autopilot : Autopilot}
    (coherent : autopilot.Coherent)
    (operations : List AutopilotOperation) :
    (autopilot.run operations).Coherent :=
  run_induction (fun _ operation earlier => earlier.perform operation) coherent operations

/-- With a start time there is an objective in progress, the first of the queue. -/
theorem exists_inProgress
    {autopilot : Autopilot}
    (coherent : autopilot.Coherent)
    {started : Instant}
    (recorded : autopilot.started = some started) :
    ∃ objective,
      autopilot.queue.head? = some objective ∧
      autopilot.inProgress? = some objective := by
  have waiting : autopilot.queue ≠ [] := (coherent.inProgress (by simp [recorded])).2
  refine ⟨autopilot.queue.head waiting, List.head?_eq_some_head waiting, ?_⟩
  simp [inProgress?, recorded, List.head?_eq_some_head waiting]

end Coherent

/-! ## What is shown of an autopilot -/

/-- Without a start no objective is in progress. -/
theorem inProgress?_of_not_started
    {autopilot : Autopilot}
    (waiting : autopilot.started = none) :
    autopilot.inProgress? = none := by
  simp [inProgress?, waiting]

/-- A display shows the objective in progress with its time, or neither of them. -/
inductive Shows
    (autopilot : Autopilot)
    (now : Instant) : Prop where
  | nothing
      (waiting : autopilot.started = none)
      (unlabelled : (autopilot.status now).current = none)
      (untimed : (autopilot.status now).elapsed = none)
  | progress
      (objective : Objective)
      (started : Instant)
      (recorded : autopilot.started = some started)
      (first : autopilot.queue.head? = some objective)
      (labelled : (autopilot.status now).current = some objective.label)
      (timed : (autopilot.status now).elapsed = some (now.since started))

/-- Of a coherent autopilot a display shows an objective with its time, or neither. -/
theorem Coherent.shows
    {autopilot : Autopilot}
    (coherent : autopilot.Coherent)
    (now : Instant) :
    autopilot.Shows now := by
  cases recorded : autopilot.started with
  | none =>
      refine .nothing recorded ?_ ?_
      · simp [status, inProgress?_of_not_started recorded]
      · simp [status, recorded]
  | some started =>
      obtain ⟨objective, first, current⟩ := coherent.exists_inProgress recorded
      refine .progress objective started recorded first ?_ ?_
      · simp [status, current]
      · simp [status, recorded]

/-- What the fields of an autopilot mean for those who ask for its progress. -/
structure Represents (autopilot : Autopilot) : Prop where
  coherent : autopilot.Coherent
  /-- An objective is in progress exactly while a start time is recorded. -/
  inProgress : autopilot.inProgress?.isSome = autopilot.started.isSome
  /-- The time and the label of the display appear and vanish together. -/
  together :
    ∀ now,
      (autopilot.status now).elapsed.isSome = (autopilot.status now).current.isSome
  shows : ∀ now, autopilot.Shows now

/-- The fields of a coherent autopilot mean what those who ask take them for. -/
theorem Coherent.represents
    {autopilot : Autopilot}
    (coherent : autopilot.Coherent) :
    autopilot.Represents where
  coherent := coherent
  inProgress := by
    cases recorded : autopilot.started with
    | none =>
        simp [inProgress?_of_not_started recorded]
    | some started =>
        obtain ⟨objective, -, current⟩ := coherent.exists_inProgress recorded
        simp [current]
  together := by
    intro now
    cases coherent.shows now with
    | nothing _ unlabelled untimed => rw [unlabelled, untimed]; rfl
    | progress _ _ _ _ labelled timed => rw [labelled, timed]; rfl
  shows := coherent.shows

/--
The representation invariant: it holds of a fresh autopilot, every operation keeps it, and so the
fields of every reachable autopilot agree with each other and with what is shown of them.
-/
theorem representation_is_inductive :
    start.Coherent ∧
    (∀ (autopilot : Autopilot) (operation : AutopilotOperation),
      autopilot.Coherent → (autopilot.perform operation).1.Coherent) ∧
    ∀ operations : List AutopilotOperation, (start.run operations).Represents :=
  ⟨Coherent.start, fun _ operation earlier => earlier.perform operation,
    fun operations => (Coherent.start.run operations).represents⟩

end Autopilot

end DroneSession
