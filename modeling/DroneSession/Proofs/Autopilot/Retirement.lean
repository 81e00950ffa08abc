import Mathlib.Data.List.Induction
import DroneSession.Proofs.Autopilot.Composition
import DroneSession.Proofs.Autopilot.EventProtocol
import DroneSession.Proofs.Recording.Tick

namespace DroneSession

/-!
# The retirement law

A tick retires the objective that it flies when the budget is used up, counted from the tick that
last reported a start, and otherwise when early exit lets it end.  That tick is found in the log of
the run.  `Underway` ties the start time of an autopilot to it, and says that nothing behind it has
ended the objective: no interruption, no retirement and no tick at or past the budget.
-/

namespace Duration

/-- A span has passed between two instants exactly if they are that far apart. -/
theorem nanoseconds_le_since_iff
    {duration : Duration}
    {later earlier : Instant} :
    duration.nanoseconds ≤ (later.since earlier).nanoseconds ↔
      duration.nanoseconds ≤ (later.nanoseconds - earlier.nanoseconds).toNat := by
  have bounded := duration.nanoseconds_lt_limit
  rw [Instant.since, nanoseconds_ofNanoseconds]
  omega

end Duration

namespace Objective

/-- The budget of an objective that began at one instant is used up at another. -/
def IsSpent
    (objective : Objective)
    (began now : Instant) :
    Prop :=
  objective.budget.nanoseconds ≤ (now.nanoseconds - began.nanoseconds).toNat

/-- What lets an objective end before its budget is used up. -/
structure EndsEarly
    (objective : Objective)
    (record : Option NavigationRecord) :
    Prop where
  steers : objective.action? = none
  earlyExit : objective.earlyExit = true
  driven : objective.goals ≠ []
  satisfied : ∀ goal ∈ objective.goals, (goal.evaluate record).satisfied = true

/-- An objective of built-in intents does not end early while there is no record. -/
theorem not_endsEarly_of_intents
    {objective : Objective}
    {intents : List Intent}
    (builtIn : objective.goals = intents.map Intent.goal) :
    ¬ objective.EndsEarly none := by
  rintro ⟨-, -, driven, satisfied⟩
  rw [builtIn] at driven satisfied
  obtain ⟨intent, member⟩ := List.exists_mem_of_ne_nil _ (mt List.map_eq_nil_iff.mpr driven)
  have unsatisfied : (intent.goal.evaluate none).satisfied = false := by
    cases intent <;> rfl
  have met := satisfied intent.goal (List.mem_map_of_mem member)
  rw [unsatisfied] at met
  cases met

end Objective

/--
A log has last reported a start in a tick at an instant; `since` is what it holds behind the report.
-/
def StartedAt
    (log : List LogEntry)
    (began : Instant)
    (label : String)
    (since : List LogEntry) :
    Prop :=
  ∃ earlier record,
    log = earlier ++ .call (.tick began record) :: .event (.started label) :: since ∧
    ∀ other, .event (.started other) ∉ since

namespace StartedAt

variable {log since : List LogEntry} {began : Instant} {label : String}

/-- Entries without a start leave the latest start where it is. -/
theorem append
    (started : StartedAt log began label since)
    {entries : List LogEntry}
    (startless : ∀ other, .event (.started other) ∉ entries) :
    StartedAt (log ++ entries) began label (since ++ entries) := by
  obtain ⟨earlier, record, shape, last⟩ := started
  refine ⟨earlier, record, by simp [shape], ?_⟩
  intro other member
  rcases List.mem_append.mp member with before | behind
  · exact last other before
  · exact startless other behind

/-- No start lies in front of another one that is the latest. -/
theorem eq_of_suffix
    {other : String}
    {otherSince : List LogEntry}
    (within : .event (.started label) :: since <:+ .event (.started other) :: otherSince)
    (last : ∀ label, .event (.started label) ∉ otherSince) :
    label = other ∧ since = otherSince := by
  rcases List.suffix_cons_iff.mp within with same | inside
  · cases same
    exact ⟨rfl, rfl⟩
  · exact absurd (inside.subset List.mem_cons_self) (last label)

/-- A log has at most one latest start. -/
theorem unique
    (started : StartedAt log began label since)
    {otherBegan : Instant}
    {otherLabel : String}
    {otherSince : List LogEntry}
    (startedToo : StartedAt log otherBegan otherLabel otherSince) :
    began = otherBegan ∧ since = otherSince := by
  obtain ⟨earlier, record, shape, last⟩ := started
  obtain ⟨otherEarlier, otherRecord, otherShape, otherLast⟩ := startedToo
  have tail : .event (.started label) :: since <:+ log :=
    ⟨earlier ++ [.call (.tick began record)], by simp [shape]⟩
  have otherTail : .event (.started otherLabel) :: otherSince <:+ log :=
    ⟨otherEarlier ++ [.call (.tick otherBegan otherRecord)], by simp [otherShape]⟩
  have sameTail : label = otherLabel ∧ since = otherSince := by
    rcases List.suffix_or_suffix_of_suffix tail otherTail with within | within
    · exact eq_of_suffix within otherLast
    · obtain ⟨sameLabel, sameSince⟩ := eq_of_suffix within last
      exact ⟨sameLabel.symm, sameSince.symm⟩
  obtain ⟨rfl, rfl⟩ := sameTail
  -- The calls in front of the same tail are the same call.
  have sameCall := List.append_inj_right' (shape.symm.trans otherShape) rfl
  simp_all

end StartedAt

/-- The log tells when an objective began, and nothing that it tells since has ended it. -/
structure Underway
    (log : List LogEntry)
    (objective : Objective)
    (began : Instant)
    (since : List LogEntry) :
    Prop where
  started : StartedAt log began objective.label since
  undisturbed : ∀ entry ∈ since, entry.isNeutral = true
  fresh : ¬ objective.IsSpent began began
  unspent : ∀ instant record, .call (.tick instant record) ∈ since →
    ¬ objective.IsSpent began instant

/-- An entry that does nothing to objectives, and no tick that is late, leaves one under way. -/
theorem Underway.concat
    {log since : List LogEntry}
    {objective : Objective}
    {began : Instant}
    (underway : Underway log objective began since)
    {entry : LogEntry}
    (neutral : entry.isNeutral = true)
    (unspent : ∀ instant record, entry = .call (.tick instant record) →
      ¬ objective.IsSpent began instant) :
    Underway (log ++ [entry]) objective began (since ++ [entry]) where
  started := by
    apply underway.started.append
    intro other member
    rw [← List.mem_singleton.mp member] at neutral
    cases neutral
  undisturbed := by
    intro other member
    rcases List.mem_append.mp member with before | last
    · exact underway.undisturbed other before
    · rwa [List.mem_singleton.mp last]
  fresh :=
    underway.fresh
  unspent := by
    intro instant record member
    rcases List.mem_append.mp member with before | last
    · exact underway.unspent instant record before
    · exact unspent instant record (List.mem_singleton.mp last).symm

namespace Autopilot

/-! ## What makes a retirement due -/

/-- The goals of an objective are complete exactly if it may end early. -/
theorem isComplete_iff
    {objective : Objective}
    {record : Option NavigationRecord} :
    isComplete objective record = true ↔ objective.EndsEarly record := by
  cases action : objective.action? with
  | some sent =>
      simp only [isComplete, action, Bool.false_eq_true, false_iff]
      rintro ⟨steers, -⟩
      rw [action] at steers
      cases steers
  | none =>
      simp only [isComplete, action, Objective.evaluate_complete_iff]
      constructor
      · rintro ⟨earlyExit, driven, satisfied⟩
        exact ⟨action, earlyExit, driven, satisfied⟩
      · rintro ⟨-, earlyExit, driven, satisfied⟩
        exact ⟨earlyExit, driven, satisfied⟩

/-- A budget is due exactly if it is used up. -/
theorem dueRetirement?_eq_budgetElapsed_iff
    {autopilot : Autopilot}
    {objective : Objective}
    {now : Instant}
    {record : Option NavigationRecord} :
    autopilot.dueRetirement? objective now record = some .budgetElapsed ↔
      objective.IsSpent (autopilot.startTime now) now := by
  rw [Objective.IsSpent, ← Duration.nanoseconds_le_since_iff, dueRetirement?, retirement?]
  split
  · simp_all
  · split <;> simp_all

/-- Satisfaction is due exactly if the budget is not used up and the objective may end early. -/
theorem dueRetirement?_eq_satisfied_iff
    {autopilot : Autopilot}
    {objective : Objective}
    {now : Instant}
    {record : Option NavigationRecord} :
    autopilot.dueRetirement? objective now record = some .satisfied ↔
      ¬ objective.IsSpent (autopilot.startTime now) now ∧ objective.EndsEarly record := by
  rw [Objective.IsSpent, ← Duration.nanoseconds_le_since_iff, ← isComplete_iff, dueRetirement?,
    retirement?]
  split
  · simp_all
  · split <;> simp_all

/-- Nothing is due exactly if the budget is not used up and the objective may not end early. -/
theorem dueRetirement?_eq_none_iff
    {autopilot : Autopilot}
    {objective : Objective}
    {now : Instant}
    {record : Option NavigationRecord} :
    autopilot.dueRetirement? objective now record = none ↔
      ¬ objective.IsSpent (autopilot.startTime now) now ∧ ¬ objective.EndsEarly record := by
  rw [← dueRetirement?_eq_budgetElapsed_iff, ← isComplete_iff, dueRetirement?, retirement?]
  split
  · simp
  · split <;> simp_all

/-! ## The start of the objective in progress -/

/-- The log tells when the objective in progress began. -/
def KnowsStart
    (log : List LogEntry)
    (autopilot : Autopilot) :
    Prop :=
  ∀ began objective,
    autopilot.started = some began →
    autopilot.queue.head? = some objective →
    ∃ since, Underway log objective began since

/-- Of an objective that is not in progress there is no start to know. -/
theorem knowsStart_of_not_started
    {log : List LogEntry}
    {autopilot : Autopilot}
    (waiting : autopilot.started = none) :
    KnowsStart log autopilot := by
  intro began objective started
  rw [waiting] at started
  cases started

namespace KnowsStart

variable {log : List LogEntry} {autopilot : Autopilot}

/-- A call that leaves the objective in progress alone leaves its start where it is. -/
theorem call
    (knows : KnowsStart log autopilot)
    (next : Autopilot)
    (operation : AutopilotOperation)
    (sameStart : next.started = autopilot.started)
    (sameFirst : autopilot.started.isSome = true → next.queue.head? = autopilot.queue.head?)
    (neutral : LogEntry.isNeutral (.call operation) = true)
    (untimed : ∀ instant record, operation ≠ .tick instant record) :
    KnowsStart (log ++ [.call operation]) next := by
  intro began objective started first
  rw [sameStart] at started
  rw [sameFirst (by simp [started])] at first
  obtain ⟨since, underway⟩ := knows began objective started first
  refine ⟨since ++ [.call operation], underway.concat neutral ?_⟩
  intro instant record same
  exact absurd (LogEntry.call.inj same) (untimed instant record)

/-- A tick that starts an objective is its start, and one that goes on with it leaves it there. -/
theorem pursue
    (knows : KnowsStart log autopilot)
    {objective : Objective}
    {others : List Objective}
    {now : Instant}
    {record : Option NavigationRecord}
    (queued : autopilot.queue = objective :: others)
    (goesOn : autopilot.dueRetirement? objective now record = none) :
    ∃ since,
      Underway
        (log ++ .call (.tick now record) :: (autopilot.startEvents objective).map .event)
        objective (autopilot.startTime now) since := by
  have unspent := (dueRetirement?_eq_none_iff.mp goesOn).1
  cases started : autopilot.started with
  | none =>
      simp only [startTime, started, Option.getD_none] at unspent ⊢
      simp only [startEvents, started, Option.isNone_none, if_true, List.map_cons, List.map_nil]
      refine ⟨[], ⟨log, record, rfl, ?_⟩, ?_, unspent, ?_⟩
      · intro other member
        cases member
      · intro entry member
        cases member
      · intro instant telemetry member
        cases member
  | some began =>
      simp only [startTime, started, Option.getD_some] at unspent ⊢
      simp only [startEvents, started, Option.isNone_some, Bool.false_eq_true, if_false,
        List.map_nil]
      obtain ⟨since, underway⟩ := knows began objective started (by simp [queued])
      refine ⟨since ++ [.call (.tick now record)], underway.concat rfl ?_⟩
      rintro instant telemetry same
      cases same
      exact unspent

/-- Behind a tick the log tells when the objective in progress began. -/
theorem tick
    (coherent : autopilot.Coherent)
    (knows : KnowsStart log autopilot)
    (now : Instant)
    (record : Option NavigationRecord) :
    KnowsStart
      (log ++ .call (.tick now record) :: (autopilot.tick now record).2.events.map .event)
      (autopilot.tick now record).1 := by
  have ticked := autopilot.tickCase now record
  generalize autopilot.tick now record = result at ticked ⊢
  cases ticked with
  | idle inactive =>
      apply knowsStart_of_not_started
      cases started : autopilot.started with
      | none =>
          rfl
      | some instant =>
          have active := (coherent.inProgress (by simp [started])).1
          rw [inactive] at active
          cases active
  | waiting active empty =>
      intro began objective _ first
      simp [empty] at first
  | pursuing objective others active queued goesOn =>
      intro began current started first
      obtain rfl : autopilot.startTime now = began := Option.some.inj started
      obtain rfl : objective = current := by
        simpa [queued] using first
      exact knows.pursue queued goesOn
  | retiring objective next others reason active queued due =>
      exact knowsStart_of_not_started rfl
  | draining objective reason active queued due =>
      exact knowsStart_of_not_started rfl

/-- Behind every operation the log still tells when the objective in progress began. -/
theorem perform
    (coherent : autopilot.Coherent)
    (knows : KnowsStart log autopilot)
    (operation : AutopilotOperation) :
    KnowsStart (log ++ autopilot.entries operation) (autopilot.perform operation).1 := by
  cases operation with
  | enqueue objective =>
      refine knows.call (autopilot.enqueue objective) (.enqueue objective) rfl ?_ rfl ?_
      · intro started
        obtain ⟨first, others, queued⟩ :=
          List.exists_cons_of_ne_nil (coherent.inProgress started).2
        simp [Autopilot.enqueue, queued]
      · intro instant record same
        cases same
  | clear =>
      exact knowsStart_of_not_started rfl
  | setActive active =>
      cases active with
      | false =>
          exact knowsStart_of_not_started rfl
      | true =>
          refine knows.call _ (.setActive true) rfl (fun _ => rfl) rfl ?_
          intro instant record same
          cases same
  | tick now record =>
      exact knows.tick coherent now record

end KnowsStart

/-- After every run the autopilot is coherent. -/
theorem coherent_run
    (operations : List AutopilotOperation) :
    (start.run operations).Coherent :=
  Coherent.start.run operations

/-- After every run the log tells when the objective in progress began. -/
theorem knowsStart_run
    (operations : List AutopilotOperation) :
    KnowsStart (start.log operations) (start.run operations) := by
  induction operations using List.reverseRecOn with
  | nil =>
      exact knowsStart_of_not_started rfl
  | append_singleton operations operation inductionHypothesis =>
      rw [log_concat, run_append]
      exact inductionHypothesis.perform (coherent_run operations) operation

/-! ## The objective that a tick flies -/

/-- A tick flies the objective in progress, or else the one that it starts. -/
inductive Flies
    (autopilot : Autopilot)
    (now : Instant)
    (record : Option NavigationRecord)
    (objective : Objective) :
    Prop where
  | inProgress
      (current : autopilot.inProgress? = some objective)
  | starting
      (first : autopilot.queue.head? = some objective)
      (reported : .started objective.label ∈ autopilot.tickEvents now record)

/-- An objective in progress is the first of the queue and has a start. -/
theorem exists_started_of_inProgress
    {autopilot : Autopilot}
    {objective : Objective}
    (current : autopilot.inProgress? = some objective) :
    ∃ began,
      autopilot.started = some began ∧
      autopilot.queue.head? = some objective := by
  unfold inProgress? at current
  cases started : autopilot.started with
  | none =>
      simp [started] at current
  | some began =>
      exact ⟨began, rfl, by simpa [started] using current⟩

/-- An autopilot that flies an objective is active, and the objective is its first. -/
theorem Flies.active_and_queued
    {autopilot : Autopilot}
    {now : Instant}
    {record : Option NavigationRecord}
    {objective : Objective}
    (coherent : autopilot.Coherent)
    (flies : autopilot.Flies now record objective) :
    autopilot.active = true ∧
      ∃ others, autopilot.queue = objective :: others := by
  cases flies with
  | inProgress current =>
      obtain ⟨began, started, first⟩ := exists_started_of_inProgress current
      exact ⟨(coherent.inProgress (by simp [started])).1, List.head?_eq_some_iff.mp first⟩
  | starting first reported =>
      refine ⟨?_, List.head?_eq_some_iff.mp first⟩
      cases active : autopilot.active with
      | true =>
          rfl
      | false =>
          simp [tickEvents, tick_of_idle active, TickOutput.quiet] at reported

/-- An active autopilot reports the start of its first objective before anything else. -/
theorem exists_tickEvents_eq
    {autopilot : Autopilot}
    {objective : Objective}
    {others : List Objective}
    (active : autopilot.active = true)
    (queued : autopilot.queue = objective :: others)
    (now : Instant)
    (record : Option NavigationRecord) :
    ∃ endings,
      autopilot.tickEvents now record = autopilot.startEvents objective ++ endings ∧
      ∀ other, .started other ∉ endings := by
  rw [tickEvents, tick_of_queue active queued]
  cases autopilot.dueRetirement? objective now record with
  | none =>
      exact ⟨[], by simp, by simp⟩
  | some reason =>
      cases others with
      | nil =>
          exact ⟨[.retired objective.label reason, .outOfObjectives],
            by simp [retire, queued], by simp⟩
      | cons next rest =>
          exact ⟨[.retired objective.label reason], by simp [retire, queued], by simp⟩

/-- An active autopilot flies its first objective. -/
theorem flies_of_queue
    {autopilot : Autopilot}
    {objective : Objective}
    {others : List Objective}
    (active : autopilot.active = true)
    (queued : autopilot.queue = objective :: others)
    (now : Instant)
    (record : Option NavigationRecord) :
    autopilot.Flies now record objective := by
  cases started : autopilot.started with
  | none =>
      apply Flies.starting
      · simp [queued]
      · obtain ⟨endings, reports, -⟩ := exists_tickEvents_eq active queued now record
        simp [reports, startEvents, started]
  | some began =>
      apply Flies.inProgress
      simp [inProgress?, started, queued]

/-- A tick retires nothing but the objective that it flies. -/
theorem exists_flies_of_retired
    {autopilot : Autopilot}
    {now : Instant}
    {record : Option NavigationRecord}
    {label : String}
    {reason : RetireReason}
    (retired : .retired label reason ∈ autopilot.tickEvents now record) :
    ∃ objective, autopilot.Flies now record objective ∧ objective.label = label := by
  have ticked := autopilot.tickCase now record
  unfold tickEvents at retired
  generalize autopilot.tick now record = result at ticked retired
  cases ticked with
  | idle | waiting =>
      cases retired
  | pursuing objective =>
      rcases autopilot.startEvents_eq objective with same | same <;> simp [same] at retired
  | retiring objective _ _ _ active queued | draining objective _ active queued =>
      refine ⟨objective, flies_of_queue active queued now record, ?_⟩
      rcases autopilot.startEvents_eq objective with same | same <;>
        simp only [same, List.nil_append, List.cons_append, List.mem_cons, reduceCtorEq,
          AutopilotEvent.retired.injEq, List.not_mem_nil, or_false, false_or] at retired <;>
        exact retired.1.symm

/-- What a tick does for the first objective of an active autopilot. -/
theorem mem_tickEvents_retired_iff
    {autopilot : Autopilot}
    {objective : Objective}
    {others : List Objective}
    (active : autopilot.active = true)
    (queued : autopilot.queue = objective :: others)
    {now : Instant}
    {record : Option NavigationRecord}
    {reason : RetireReason} :
    .retired objective.label reason ∈ autopilot.tickEvents now record ↔
      autopilot.dueRetirement? objective now record = some reason := by
  have startless : .retired objective.label reason ∉ autopilot.startEvents objective := by
    rcases autopilot.startEvents_eq objective with same | same <;> simp [same]
  rw [tickEvents, tick_of_queue active queued]
  cases due : autopilot.dueRetirement? objective now record with
  | none =>
      simpa using startless
  | some found =>
      cases others <;> simp [retire, queued, startless, eq_comm]

/-- The log tells when the objective that a tick flies began, and nothing has interrupted it. -/
theorem Flies.startedAt
    {operations : List AutopilotOperation}
    {now : Instant}
    {record : Option NavigationRecord}
    {objective : Objective}
    (flies : (start.run operations).Flies now record objective) :
    ∃ since,
      StartedAt (start.log (operations ++ [.tick now record]))
        ((start.run operations).startTime now) objective.label since ∧
      ∀ entry ∈ since, entry.interrupts = false := by
  obtain ⟨active, others, queued⟩ := flies.active_and_queued (coherent_run operations)
  obtain ⟨endings, reports, startless⟩ := exists_tickEvents_eq active queued now record
  have uninterrupted :
      ∀ entry ∈ endings.map LogEntry.event, entry.interrupts = false := by
    intro entry member
    obtain ⟨event, -, same⟩ := List.mem_map.mp member
    subst same
    rfl
  rw [log_concat]
  cases started : (start.run operations).started with
  | none =>
      -- The tick starts the objective.
      refine ⟨endings.map .event, ⟨start.log operations, record, ?_, ?_⟩, uninterrupted⟩
      · simp [entries_tick, reports, startEvents, startTime, started]
      · simpa using startless
  | some began =>
      obtain ⟨since, underway⟩ :=
        knowsStart_run operations began objective started (by simp [queued])
      have goesOn :
          (start.run operations).entries (.tick now record) =
            .call (.tick now record) :: endings.map .event := by
        simp [entries_tick, reports, startEvents, started]
      refine ⟨since ++ .call (.tick now record) :: endings.map .event, ?_, ?_⟩
      · rw [goesOn, startTime, started]
        apply underway.started.append
        simpa using startless
      · intro entry member
        rcases List.mem_append.mp member with before | behind
        · exact LogEntry.interrupts_eq_false_of_isNeutral (underway.undisturbed entry before)
        · rcases List.mem_cons.mp behind with same | reported
          · exact same ▸ rfl
          · exact uninterrupted entry reported

/-! ## The law -/

/-- How a tick judges the objective that it flies, which began at a given instant. -/
structure Judges
    (autopilot : Autopilot)
    (now : Instant)
    (record : Option NavigationRecord)
    (objective : Objective)
    (began : Instant) :
    Prop where
  budgetElapsed :
    .retired objective.label .budgetElapsed ∈ autopilot.tickEvents now record ↔
      objective.IsSpent began now
  satisfied :
    .retired objective.label .satisfied ∈ autopilot.tickEvents now record ↔
      ¬ objective.IsSpent began now ∧ objective.EndsEarly record
  removed :
    objective.IsSpent began now ∨ objective.EndsEarly record →
    (autopilot.tick now record).1.queue = autopilot.queue.tail ∧
      (autopilot.tick now record).1.inProgress? = none
  goesOn :
    ¬ objective.IsSpent began now →
    ¬ objective.EndsEarly record →
    (autopilot.tick now record).1.inProgress? = some objective ∧
      ∀ label reason, .retired label reason ∉ autopilot.tickEvents now record

/-- An active autopilot judges its first objective. -/
theorem judges
    {autopilot : Autopilot}
    {objective : Objective}
    {others : List Objective}
    (active : autopilot.active = true)
    (queued : autopilot.queue = objective :: others)
    (now : Instant)
    (record : Option NavigationRecord) :
    autopilot.Judges now record objective (autopilot.startTime now) where
  budgetElapsed :=
    (mem_tickEvents_retired_iff active queued).trans dueRetirement?_eq_budgetElapsed_iff
  satisfied :=
    (mem_tickEvents_retired_iff active queued).trans dueRetirement?_eq_satisfied_iff
  removed := by
    intro ends
    rw [tick_of_queue active queued]
    cases due : autopilot.dueRetirement? objective now record with
    | none =>
        obtain ⟨unspent, goesOn⟩ := dueRetirement?_eq_none_iff.mp due
        exact absurd ends (not_or.mpr ⟨unspent, goesOn⟩)
    | some reason =>
        cases others <;> simp [retire, queued, inProgress?]
  goesOn := by
    intro unspent goesOn
    have due := dueRetirement?_eq_none_iff.mpr ⟨unspent, goesOn⟩
    constructor
    · simp [tick_of_queue active queued, due, inProgress?, queued]
    · intro label reason
      rw [tickEvents, tick_of_queue active queued, due]
      rcases autopilot.startEvents_eq objective with same | same <;> simp [same]

/-- When and why objectives are retired behind a run from the start. -/
structure RetirementLaw (operations : List AutopilotOperation) : Prop where
  /-- Every tick of an active autopilot flies the first objective of its queue, and no other. -/
  flown :
    ∀ {now record objective},
      (start.run operations).Flies now record objective ↔
        (start.run operations).active = true ∧
          (start.run operations).queue.head? = some objective
  /-- The log of a tick tells when the objective began that the tick flies. -/
  started :
    ∀ {now record objective},
      (start.run operations).Flies now record objective →
      ∃ began since,
        StartedAt (start.log (operations ++ [.tick now record])) began objective.label since
  /-- The tick judges the objective by that start. -/
  judged :
    ∀ {now record objective began since},
      (start.run operations).Flies now record objective →
      StartedAt (start.log (operations ++ [.tick now record])) began objective.label since →
      (start.run operations).Judges now record objective began
  /-- No tick retires another objective. -/
  retired :
    ∀ {now record label reason},
      .retired label reason ∈ (start.run operations).tickEvents now record →
      ∃ objective, (start.run operations).Flies now record objective ∧ objective.label = label
  /-- The start that counts lies behind every interruption. -/
  uninterrupted :
    ∀ {now record objective began since},
      (start.run operations).Flies now record objective →
      StartedAt (start.log (operations ++ [.tick now record])) began objective.label since →
      .call .clear ∉ since ∧ .call (.setActive false) ∉ since
  /-- No tick that an objective has outlived was at or past its budget. -/
  unspent :
    ∀ {objective},
      (start.run operations).inProgress? = some objective →
      ∃ began since,
        StartedAt (start.log operations) began objective.label since ∧
        ¬ objective.IsSpent began began ∧
        ∀ instant record, .call (.tick instant record) ∈ since →
          ¬ objective.IsSpent began instant
  /-- Without a record an objective of built-in intents is not reported as satisfied. -/
  builtIn :
    ∀ {now objective} {intents : List Intent},
      objective.goals = intents.map Intent.goal →
      (start.run operations).Flies now none objective →
      .retired objective.label .satisfied ∉ (start.run operations).tickEvents now none

/-- Every run of the autopilot follows the retirement law. -/
theorem retirementLaw
    (operations : List AutopilotOperation) :
    RetirementLaw operations where
  flown := by
    intro now record objective
    constructor
    · intro flies
      obtain ⟨active, queued⟩ := flies.active_and_queued (coherent_run operations)
      exact ⟨active, List.head?_eq_some_iff.mpr queued⟩
    · rintro ⟨active, first⟩
      obtain ⟨others, queued⟩ := List.head?_eq_some_iff.mp first
      exact flies_of_queue active queued now record
  started := by
    intro now record objective flies
    obtain ⟨since, started, -⟩ := flies.startedAt
    exact ⟨_, since, started⟩
  judged := by
    intro now record objective began since flies started
    obtain ⟨active, others, queued⟩ := flies.active_and_queued (coherent_run operations)
    obtain ⟨found, startedToo, -⟩ := flies.startedAt
    obtain ⟨rfl, -⟩ := started.unique startedToo
    exact judges active queued now record
  retired :=
    exists_flies_of_retired
  uninterrupted := by
    intro now record objective began since flies started
    obtain ⟨found, startedToo, uninterrupted⟩ := flies.startedAt
    obtain ⟨-, rfl⟩ := started.unique startedToo
    constructor
    · intro member
      cases uninterrupted _ member
    · intro member
      cases uninterrupted _ member
  unspent := by
    intro objective current
    obtain ⟨began, started, first⟩ := exists_started_of_inProgress current
    obtain ⟨since, underway⟩ := knowsStart_run operations began objective started first
    exact ⟨began, since, underway.started, underway.fresh, underway.unspent⟩
  builtIn := by
    intro now objective intents builtIn flies reported
    obtain ⟨active, others, queued⟩ := flies.active_and_queued (coherent_run operations)
    have judged := judges active queued now none
    exact Objective.not_endsEarly_of_intents builtIn (judged.satisfied.mp reported).2

/-- An objective that was interrupted has its whole budget again when it restarts. -/
example :
    let landing := Objective.ofAction (.ofNanoseconds 5) .land
    let restarted := start.run
      [.enqueue landing, .setActive true, .tick ⟨0⟩ none, .setActive false, .setActive true,
        .tick ⟨4⟩ none]
    restarted.tickEvents ⟨8⟩ none = [] ∧
      restarted.tickEvents ⟨9⟩ none = [.retired "Land" .budgetElapsed, .outOfObjectives] :=
  ⟨rfl, rfl⟩

end Autopilot

end DroneSession
