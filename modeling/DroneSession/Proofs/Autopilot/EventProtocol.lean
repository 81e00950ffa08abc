import Mathlib.Data.List.Basic
import DroneSession.Proofs.Autopilot.Log

namespace DroneSession

/-!
# The event protocol of the autopilot

A supervisor that listens to the autopilot can rely on the order of what it hears.  The clauses on
starts and retirements are read off the log of a run, the others are facts about one tick of an
autopilot that some run has led to.
-/

namespace AutopilotEvent

/-- Whether an event reports the start of an objective. -/
def isStart : AutopilotEvent → Bool
  | .started _ => true
  | _ => false

/-- Whether an event reports the retirement of an objective. -/
def isRetirement : AutopilotEvent → Bool
  | .retired .. => true
  | _ => false

end AutopilotEvent

namespace Autopilot

/-- The events of one tick, in the order in which they are raised. -/
def tickEvents
    (autopilot : Autopilot)
    (now : Instant)
    (record : Option NavigationRecord) :
    List AutopilotEvent :=
  (autopilot.tick now record).2.events

/-- The log of a tick is the call and its events. -/
theorem entries_tick
    (autopilot : Autopilot)
    (now : Instant)
    (record : Option NavigationRecord) :
    autopilot.entries (.tick now record) =
      .call (.tick now record) :: (autopilot.tickEvents now record).map .event :=
  rfl

/-- A tick reports at most a start, a retirement and the end of the objectives, in this order. -/
theorem exists_tickEvents_sublist
    (autopilot : Autopilot)
    (now : Instant)
    (record : Option NavigationRecord) :
    ∃ label reason,
      (autopilot.tickEvents now record).Sublist
        [.started label, .retired label reason, .outOfObjectives] := by
  have ticked := autopilot.tickCase now record
  unfold tickEvents
  generalize autopilot.tick now record = result at ticked ⊢
  cases ticked with
  | idle | waiting =>
      exact ⟨"", .satisfied, List.nil_sublist _⟩
  | pursuing objective =>
      refine ⟨objective.label, .satisfied, ?_⟩
      rcases autopilot.startEvents_eq objective with same | same <;> simp [same]
  | retiring objective _ _ reason | draining objective reason =>
      refine ⟨objective.label, reason, ?_⟩
      rcases autopilot.startEvents_eq objective with same | same <;> simp [same]

/-- A tick starts at most one objective. -/
theorem countP_isStart_tickEvents
    (autopilot : Autopilot)
    (now : Instant)
    (record : Option NavigationRecord) :
    (autopilot.tickEvents now record).countP AutopilotEvent.isStart ≤ 1 := by
  obtain ⟨label, reason, within⟩ := autopilot.exists_tickEvents_sublist now record
  exact within.countP_le

/-- A tick retires at most one objective. -/
theorem countP_isRetirement_tickEvents
    (autopilot : Autopilot)
    (now : Instant)
    (record : Option NavigationRecord) :
    (autopilot.tickEvents now record).countP AutopilotEvent.isRetirement ≤ 1 := by
  obtain ⟨label, reason, within⟩ := autopilot.exists_tickEvents_sublist now record
  exact within.countP_le

/-- The end of the objectives is reported directly behind a retirement. -/
theorem retired_before_outOfObjectives
    {autopilot : Autopilot}
    {now : Instant}
    {record : Option NavigationRecord}
    {earlier later : List AutopilotEvent}
    (shape :
      autopilot.tickEvents now record = earlier ++ .outOfObjectives :: later) :
    ∃ leading label reason, earlier = leading ++ [.retired label reason] := by
  have ticked := autopilot.tickCase now record
  unfold tickEvents at shape
  generalize autopilot.tick now record = result at ticked shape
  cases ticked with
  | idle | waiting =>
      simp [TickOutput.quiet] at shape
  | pursuing objective | retiring objective =>
      have member :
          AutopilotEvent.outOfObjectives ∈ earlier ++ .outOfObjectives :: later := by
        simp
      rw [← shape] at member
      rcases autopilot.startEvents_eq objective with same | same <;>
        simp [same] at member
  | draining objective reason =>
      have regrouped :
          (autopilot.startEvents objective ++ [.retired objective.label reason]) ++
              .outOfObjectives :: [] =
            earlier ++ .outOfObjectives :: later := by
        simpa using shape
      have first :
          AutopilotEvent.outOfObjectives ∉
            autopilot.startEvents objective ++ [.retired objective.label reason] := by
        rcases autopilot.startEvents_eq objective with same | same <;>
          simp [same]
      have sameEarlier :=
        ((List.append_cons_inj_of_notMem first (by simp)).mp regrouped).1
      exact ⟨autopilot.startEvents objective, objective.label, reason, sameEarlier.symm⟩

/--
The end of the objectives is reported by exactly the ticks whose retirement empties the queue.
-/
theorem outOfObjectives_iff_emptied
    (autopilot : Autopilot)
    (now : Instant)
    (record : Option NavigationRecord) :
    .outOfObjectives ∈ autopilot.tickEvents now record ↔
      (∃ label reason, .retired label reason ∈ autopilot.tickEvents now record) ∧
        (autopilot.tick now record).1.queue = [] := by
  have ticked := autopilot.tickCase now record
  unfold tickEvents
  generalize autopilot.tick now record = result at ticked ⊢
  cases ticked with
  | idle | waiting =>
      simp [TickOutput.quiet]
  | pursuing objective | retiring objective | draining objective =>
      rcases autopilot.startEvents_eq objective with same | same <;>
        simp [same]

/-- The end of the objectives is reported by exactly the ticks that turn the autopilot off. -/
theorem outOfObjectives_iff_turned_off
    (autopilot : Autopilot)
    (now : Instant)
    (record : Option NavigationRecord) :
    .outOfObjectives ∈ autopilot.tickEvents now record ↔
      autopilot.active = true ∧ (autopilot.tick now record).1.active = false := by
  have ticked := autopilot.tickCase now record
  unfold tickEvents
  generalize autopilot.tick now record = result at ticked ⊢
  cases ticked with
  | idle inactive =>
      simp [TickOutput.quiet, inactive]
  | waiting active =>
      simp [TickOutput.quiet, active]
  | pursuing objective _ active | retiring objective _ _ _ active | draining objective _ active =>
      rcases autopilot.startEvents_eq objective with same | same <;>
        simp [same, active]

/-- An idle autopilot stays idle until it is activated. -/
theorem idle_run
    {autopilot : Autopilot}
    (idle : autopilot.active = false)
    {operations : List AutopilotOperation}
    (unwoken : .setActive true ∉ operations) :
    (autopilot.run operations).active = false := by
  induction operations generalizing autopilot with
  | nil =>
      exact idle
  | cons operation rest inductionHypothesis =>
      simp only [List.mem_cons, not_or] at unwoken
      apply inductionHypothesis _ unwoken.2
      cases operation with
      | enqueue objective =>
          exact idle
      | clear =>
          exact idle
      | setActive active =>
          cases active with
          | false =>
              rfl
          | true =>
              exact (unwoken.1 rfl).elim
      | tick now record =>
          simp [perform, tick, idle]

/-- An idle autopilot wants nothing and reports nothing. -/
theorem tick_of_idle
    {autopilot : Autopilot}
    (idle : autopilot.active = false)
    (now : Instant)
    (record : Option NavigationRecord) :
    (autopilot.tick now record).2 = .quiet := by
  simp [tick, idle]

/--
What a supervisor can rely on after a sequence of operations on a fresh autopilot.

The first two clauses speak of the whole log, the others of one more tick.  A tick that reports the
end of the objectives is followed by silence until the autopilot is activated again.
-/
structure EventProtocol (operations : List AutopilotOperation) : Prop where
  startsSeparated :
    ∀ {earlier between later first second},
      start.log operations =
        earlier ++ .event (.started first) :: between ++ .event (.started second) :: later →
      (∃ reason, .event (.retired first reason) ∈ between) ∨
        .call .clear ∈ between ∨
        .call (.setActive false) ∈ between
  retirementsMatchStarts :
    ∀ {earlier later label reason},
      start.log operations = earlier ++ .event (.retired label reason) :: later →
      ∃ leading between,
        earlier = leading ++ .event (.started label) :: between ∧
          (∀ other, .event (.started other) ∉ between) ∧
          (∀ other why, .event (.retired other why) ∉ between) ∧
          .call .clear ∉ between ∧
          .call (.setActive false) ∉ between
  oneStart :
    ∀ now record,
      ((start.run operations).tickEvents now record).countP AutopilotEvent.isStart ≤ 1
  oneRetirement :
    ∀ now record,
      ((start.run operations).tickEvents now record).countP AutopilotEvent.isRetirement ≤ 1
  endFollowsRetirement :
    ∀ {now record earlier later},
      (start.run operations).tickEvents now record = earlier ++ .outOfObjectives :: later →
      ∃ leading label reason, earlier = leading ++ [.retired label reason]
  endWhenEmptied :
    ∀ now record,
      .outOfObjectives ∈ (start.run operations).tickEvents now record ↔
        (∃ label reason, .retired label reason ∈ (start.run operations).tickEvents now record) ∧
          ((start.run operations).tick now record).1.queue = []
  endTurnsOff :
    ∀ now record,
      .outOfObjectives ∈ (start.run operations).tickEvents now record ↔
        (start.run operations).active = true ∧
          ((start.run operations).tick now record).1.active = false
  silentAfterEnd :
    ∀ {now record},
      .outOfObjectives ∈ (start.run operations).tickEvents now record →
      ∀ later,
        .setActive true ∉ later →
        ∀ instant latest,
          ((((start.run operations).tick now record).1.run later).tick instant latest).2 = .quiet

/-- A start behind another start is separated from it. -/
theorem separated_of_starts
    {operations : List AutopilotOperation}
    {earlier between later : List LogEntry}
    {first second : String}
    (shape :
      start.log operations =
        earlier ++ .event (.started first) :: between ++ .event (.started second) :: later) :
    (∃ reason, .event (.retired first reason) ∈ between) ∨
      .call .clear ∈ between ∨
      .call (.setActive false) ∈ between := by
  have read := log_tracked Coherent.start operations
  rw [shape] at read
  obtain ⟨held, firstRead, secondRead⟩ := read.split
  obtain ⟨beforeFirst, _, startRead⟩ := firstRead.split
  -- A start is read only while nothing is in progress.
  have free : held = none := by
    cases secondRead with
    | neutral neutral => cases neutral
    | started => rfl
    | interrupted interrupts => cases interrupts
  subst free
  have betweenRead : Tracks (some first) between none := by
    cases startRead with
    | neutral neutral => cases neutral
    | started _ tail => exact tail
    | interrupted interrupts => cases interrupts
  rcases betweenRead.retired_or_interrupted with retired | ⟨entry, member, interrupts⟩
  · exact .inl retired
  · rcases LogEntry.interrupts_iff.mp interrupts with same | same
    · exact .inr (.inl (same ▸ member))
    · exact .inr (.inr (same ▸ member))

/-- A retirement belongs to the latest start. -/
theorem start_of_retirement
    {operations : List AutopilotOperation}
    {earlier later : List LogEntry}
    {label : String}
    {reason : RetireReason}
    (shape : start.log operations = earlier ++ .event (.retired label reason) :: later) :
    ∃ leading between,
      earlier = leading ++ .event (.started label) :: between ∧
        ∀ entry ∈ between, entry.isNeutral = true := by
  have read := log_tracked Coherent.start operations
  rw [shape] at read
  obtain ⟨held, earlierRead, retirementRead⟩ := read.split
  have inProgress : held = some label := by
    cases retirementRead with
    | neutral neutral => cases neutral
    | retired => rfl
    | interrupted interrupts => cases interrupts
  rcases earlierRead.in_progress_or_started inProgress with ⟨initially, _⟩ | started
  · cases initially
  · exact started

/-- Every run of the autopilot follows the event protocol. -/
theorem eventProtocol
    (operations : List AutopilotOperation) :
    EventProtocol operations where
  startsSeparated :=
    separated_of_starts
  retirementsMatchStarts := by
    intro earlier later label reason shape
    obtain ⟨leading, between, same, neutrals⟩ := start_of_retirement shape
    refine ⟨leading, between, same, ?_, ?_, ?_, ?_⟩
    · intro other member
      cases neutrals _ member
    · intro other why member
      cases neutrals _ member
    · intro member
      cases neutrals _ member
    · intro member
      cases neutrals _ member
  oneStart :=
    (start.run operations).countP_isStart_tickEvents
  oneRetirement :=
    (start.run operations).countP_isRetirement_tickEvents
  endFollowsRetirement :=
    retired_before_outOfObjectives
  endWhenEmptied :=
    (start.run operations).outOfObjectives_iff_emptied
  endTurnsOff :=
    (start.run operations).outOfObjectives_iff_turned_off
  silentAfterEnd := by
    intro now record reported later unwoken instant latest
    have off := ((outOfObjectives_iff_turned_off _ now record).mp reported).2
    exact tick_of_idle (idle_run off unwoken) instant latest

end Autopilot

end DroneSession
