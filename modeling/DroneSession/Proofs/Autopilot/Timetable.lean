import Mathlib.Algebra.BigOperators.Group.List.Basic
import Mathlib.Algebra.Order.Floor.Div
import DroneSession.Proofs.Autopilot.Retirement

namespace DroneSession

/-!
# The timetable of a mission

Objectives are enqueued into a fresh autopilot, which is then activated and ticked at a fixed
interval.  `Leg` says that some ticks in a row fly one objective and that the last of them retires
it; the tick behind a leg finds the autopilot at rest with the other objectives.  Legs of objectives
that do not end early take as many ticks as their budgets fill, so the whole flight follows a
timetable; early exit can only shorten a leg.
-/

/-- Ticks at a fixed interval, and the record that each of them reads. -/
structure Cadence where
  /-- When tick number zero happens. -/
  begun : Instant
  /-- The nanoseconds from one tick to the next. -/
  interval : Nat
  interval_pos : 0 < interval
  records : Nat → Option NavigationRecord

namespace Autopilot

/-- An autopilot that flies nothing, and is active as long as it has objectives. -/
def resting (queue : List Objective) : Autopilot where
  queue := queue
  started := none
  active := !queue.isEmpty
  hoverPending := false

end Autopilot

namespace Cadence

open Autopilot

/-- When a tick happens. -/
def instant
    (cadence : Cadence)
    (number : Nat) :
    Instant where
  nanoseconds := cadence.begun.nanoseconds + (cadence.interval * number : Nat)

/-- The ticks with lower numbers, in order. -/
def ticksBefore
    (cadence : Cadence)
    (number : Nat) :
    List AutopilotOperation :=
  (List.range number).map fun earlier =>
    .tick (cadence.instant earlier) (cadence.records earlier)

/-- The autopilot that a tick finds when it flies a mission. -/
def pilot
    (cadence : Cadence)
    (mission : List Objective)
    (number : Nat) :
    Autopilot :=
  start.run (mission.map .enqueue ++ .setActive true :: cadence.ticksBefore number)

/-- What a tick wants sent. -/
def output
    (cadence : Cadence)
    (mission : List Objective)
    (number : Nat) :
    TickOutput :=
  ((cadence.pilot mission number).tick (cadence.instant number) (cadence.records number)).2

/-- What a tick reports. -/
def events
    (cadence : Cadence)
    (mission : List Objective)
    (number : Nat) :
    List AutopilotEvent :=
  (cadence.output mission number).events

/-- How many ticks behind its start an objective has used up its budget. -/
def stay
    (cadence : Cadence)
    (objective : Objective) :
    Nat :=
  objective.budget.nanoseconds ⌈/⌉ cadence.interval

/-- The number of the tick that starts an objective if none before it ends early. -/
def departure
    (cadence : Cadence)
    (mission : List Objective)
    (index : Nat) :
    Nat :=
  ((mission.take index).map fun objective => cadence.stay objective + 1).sum

/-- The number of the tick that ends a mission if no objective ends early. -/
def terminus
    (cadence : Cadence)
    (mission : List Objective) :
    Nat :=
  (mission.map cadence.stay).sum + mission.length - 1

variable {cadence : Cadence} {mission : List Objective}

/-! ## From one tick to the next -/

theorem pilot_zero
    (cadence : Cadence)
    (nonempty : mission ≠ []) :
    cadence.pilot mission 0 = resting mission := by
  rw [pilot, run_append, run_enqueue, enqueueAll_eq]
  simp [ticksBefore, run, perform, setActive, start, resting, nonempty]

theorem pilot_succ
    (cadence : Cadence)
    (mission : List Objective)
    (number : Nat) :
    cadence.pilot mission (number + 1) =
      ((cadence.pilot mission number).tick (cadence.instant number) (cadence.records number)).1 := by
  have appended :
      mission.map .enqueue ++ .setActive true :: cadence.ticksBefore (number + 1) =
        (mission.map .enqueue ++ .setActive true :: cadence.ticksBefore number) ++
          [.tick (cadence.instant number) (cadence.records number)] := by
    simp [ticksBefore, List.range_succ]
  rw [pilot, appended, run_append]
  rfl

/-- An autopilot that is idle at one tick is idle at all later ones. -/
theorem pilot_idle
    {number later : Nat}
    (idle : (cadence.pilot mission number).active = false)
    (notBefore : number ≤ later) :
    (cadence.pilot mission later).active = false := by
  induction later, notBefore using Nat.le_induction with
  | base =>
      exact idle
  | succ later notBefore inductionHypothesis =>
      rw [pilot_succ]
      simp [tick, inductionHypothesis]

/-- Behind the tick that reports the end of the objectives all ticks are silent. -/
theorem silent_of_ended
    {number : Nat}
    (ended : .outOfObjectives ∈ cadence.events mission number)
    {later : Nat}
    (behind : number < later) :
    cadence.output mission later = .quiet := by
  have off := ((outOfObjectives_iff_turned_off _ _ _).mp ended).2
  rw [← pilot_succ] at off
  exact tick_of_idle (pilot_idle off behind) _ _

/-! ## One leg -/

/-- A budget is used up by exactly the ticks at or behind the end of the stay. -/
theorem isSpent_iff
    {objective : Objective}
    {first elapsed : Nat} :
    objective.IsSpent (cadence.instant first) (cadence.instant (first + elapsed)) ↔
      cadence.stay objective ≤ elapsed := by
  have apart :
      ((cadence.instant (first + elapsed)).nanoseconds -
        (cadence.instant first).nanoseconds).toNat = cadence.interval * elapsed := by
    simp only [instant, Nat.mul_add]
    omega
  rw [Objective.IsSpent, apart, stay, ceilDiv_le_iff_le_mul cadence.interval_pos]

/-- The autopilot that a tick finds while it flies the first objective, started by a given tick. -/
def aboard
    (cadence : Cadence)
    (queue : List Objective)
    (first number : Nat) :
    Autopilot where
  queue := queue
  started := if number = first then none else some (cadence.instant first)
  active := true
  hoverPending := false

/-- An objective that is in progress began at the tick that has started it. -/
theorem startTime_aboard
    {queue : List Objective}
    {first number : Nat} :
    (cadence.aboard queue first number).startTime (cadence.instant number) =
      cadence.instant first := by
  by_cases fresh : number = first
  · simp [startTime, aboard, fresh]
  · simp [startTime, aboard, fresh]

/-- The ticks from one number to another fly an objective, and the last one retires it. -/
structure Leg
    (cadence : Cadence)
    (mission : List Objective)
    (first last : Nat)
    (objective : Objective)
    (others : List Objective)
    (reason : RetireReason) :
    Prop where
  aboard :
    ∀ {number},
      first ≤ number →
      number ≤ last →
      cadence.pilot mission number = cadence.aboard (objective :: others) first number
  goesOn :
    ∀ {number},
      first ≤ number →
      number < last →
      (cadence.aboard (objective :: others) first number).dueRetirement? objective
        (cadence.instant number) (cadence.records number) = none
  ends :
    (cadence.aboard (objective :: others) first last).dueRetirement? objective
      (cadence.instant last) (cadence.records last) = some reason

/-- As long as nothing retires an objective, the ticks go on with it. -/
theorem pilot_eq_aboard
    {objective : Objective}
    {others : List Objective}
    {first : Nat}
    (rests : cadence.pilot mission first = resting (objective :: others))
    {elapsed : Nat}
    (goesOn :
      ∀ earlier < elapsed,
        (cadence.aboard (objective :: others) first (first + earlier)).dueRetirement? objective
          (cadence.instant (first + earlier)) (cadence.records (first + earlier)) = none) :
    cadence.pilot mission (first + elapsed) =
      cadence.aboard (objective :: others) first (first + elapsed) := by
  induction elapsed with
  | zero =>
      simp [rests, resting, Cadence.aboard]
  | succ elapsed inductionHypothesis =>
      have before := inductionHypothesis fun earlier less =>
        goesOn earlier (Nat.lt_succ_of_lt less)
      have due := goesOn elapsed (Nat.lt_succ_self elapsed)
      rw [← Nat.add_assoc, pilot_succ, before, tick_of_queue rfl rfl, due]
      simp only [startTime_aboard]
      simp [Cadence.aboard, Nat.add_assoc]

/--
An objective at rest is flown and retired within its stay, and at the end of its stay if it cannot
end early.
-/
theorem exists_leg
    {objective : Objective}
    {others : List Objective}
    {first : Nat}
    (rests : cadence.pilot mission first = resting (objective :: others)) :
    ∃ elapsed reason,
      elapsed ≤ cadence.stay objective ∧
      cadence.Leg mission first (first + elapsed) objective others reason ∧
      ((∀ record, ¬ objective.EndsEarly record) →
        elapsed = cadence.stay objective ∧ reason = .budgetElapsed) := by
  classical
  let pilotAt (elapsed : Nat) := cadence.aboard (objective :: others) first (first + elapsed)
  let due (elapsed : Nat) : Option RetireReason :=
    (pilotAt elapsed).dueRetirement? objective
      (cadence.instant (first + elapsed)) (cadence.records (first + elapsed))
  have spent : due (cadence.stay objective) = some .budgetElapsed := by
    rw [dueRetirement?_eq_budgetElapsed_iff, startTime_aboard, isSpent_iff]
  have someEnd : ∃ elapsed, due elapsed ≠ none :=
    ⟨cadence.stay objective, by simp [spent]⟩
  obtain ⟨reason, ends⟩ := Option.ne_none_iff_exists'.mp (Nat.find_spec someEnd)
  have goesOn : ∀ earlier < Nat.find someEnd, due earlier = none :=
    fun earlier less => not_not.mp (Nat.find_min someEnd less)
  have within : Nat.find someEnd ≤ cadence.stay objective :=
    Nat.find_min' someEnd (by simp [spent])
  refine ⟨Nat.find someEnd, reason, within, ⟨?_, ?_, ends⟩, ?_⟩
  · intro number started notOver
    obtain ⟨elapsed, rfl⟩ := Nat.exists_eq_add_of_le started
    apply pilot_eq_aboard rests
    intro earlier less
    exact goesOn earlier (by omega)
  · intro number started notOver
    obtain ⟨elapsed, rfl⟩ := Nat.exists_eq_add_of_le started
    exact goesOn elapsed (by omega)
  · intro punctual
    cases reason with
    | satisfied =>
        exact absurd (dueRetirement?_eq_satisfied_iff.mp ends).2 (punctual _)
    | budgetElapsed =>
        rw [dueRetirement?_eq_budgetElapsed_iff, startTime_aboard, isSpent_iff] at ends
        exact ⟨Nat.le_antisymm within ends, rfl⟩

namespace Leg

variable {first last number : Nat} {objective : Objective} {others : List Objective}
  {reason : RetireReason}

/-- Behind a leg the autopilot rests with the other objectives. -/
theorem arrival
    (leg : cadence.Leg mission first last objective others reason)
    (ordered : first ≤ last) :
    cadence.pilot mission (last + 1) = resting others := by
  rw [pilot_succ, leg.aboard ordered (Nat.le_refl last), tick_of_queue rfl rfl, leg.ends]
  cases others <;> rfl

/-- What the ticks of a leg report. -/
theorem events_eq
    (leg : cadence.Leg mission first last objective others reason)
    (started : first ≤ number)
    (notOver : number ≤ last) :
    cadence.events mission number =
      (if number = first then [.started objective.label] else []) ++
        if number = last then
          .retired objective.label reason :: if others = [] then [.outOfObjectives] else []
        else
          [] := by
  have starts :
      (cadence.aboard (objective :: others) first number).startEvents objective =
        if number = first then [.started objective.label] else [] := by
    by_cases fresh : number = first
    · simp [startEvents, Cadence.aboard, fresh]
    · simp [startEvents, Cadence.aboard, fresh]
  rw [events, output, leg.aboard started notOver, tick_of_queue rfl rfl, starts]
  rcases Nat.lt_or_eq_of_le notOver with before | rfl
  · rw [leg.goesOn started before]
    simp [Nat.ne_of_lt before]
  · rw [leg.ends]
    cases others <;> simp [retire, Cadence.aboard]

end Leg

/-! ## Missions without early exit -/

/-- A mission with an objective at some place is not empty. -/
theorem ne_nil_of_planned
    {index : Nat}
    {objective : Objective}
    (planned : mission[index]? = some objective) :
    mission ≠ [] := by
  rintro rfl
  cases planned

/-- An objective departs one tick behind the stay of the one before it. -/
theorem departure_succ
    (cadence : Cadence)
    {objective : Objective}
    {index : Nat}
    (planned : mission[index]? = some objective) :
    cadence.departure mission (index + 1) =
      cadence.departure mission index + cadence.stay objective + 1 := by
  simp [departure, List.take_add_one, planned, Nat.add_assoc]

theorem departure_mono
    (cadence : Cadence)
    (mission : List Objective) :
    Monotone (cadence.departure mission) := by
  apply monotone_nat_of_le_succ
  intro index
  cases planned : mission[index]? with
  | none =>
      simp [departure, List.take_add_one, planned]
  | some objective =>
      rw [cadence.departure_succ planned]
      omega

/-- The last objective is retired at the terminus. -/
theorem departure_length
    (cadence : Cadence)
    (nonempty : mission ≠ []) :
    cadence.departure mission mission.length = cadence.terminus mission + 1 := by
  have positive := List.length_pos_iff.mpr nonempty
  have total :
      (mission.map fun objective => cadence.stay objective + 1).sum =
        (mission.map cadence.stay).sum + mission.length := by
    simp [List.sum_map_add]
  rw [departure, List.take_length, total, terminus]
  omega

/-- Every tick up to the end of a mission belongs to the stay of one objective. -/
theorem exists_stay
    (index : Nat)
    {number : Nat}
    (before : number < cadence.departure mission index) :
    ∃ current objective,
      mission[current]? = some objective ∧
      cadence.departure mission current ≤ number ∧
      number ≤ cadence.departure mission current + cadence.stay objective := by
  induction index with
  | zero =>
      simp [departure] at before
  | succ index inductionHypothesis =>
      by_cases earlier : number < cadence.departure mission index
      · exact inductionHypothesis earlier
      · cases planned : mission[index]? with
        | none =>
            simp [departure, List.take_add_one, planned] at before earlier
            omega
        | some objective =>
            rw [cadence.departure_succ planned] at before
            exact ⟨index, objective, planned, by omega, by omega⟩

/-- No objective of a mission can end before its budget. -/
def Punctual (mission : List Objective) : Prop :=
  ∀ objective ∈ mission, ¬ (objective.earlyExit = true ∧ objective.goals ≠ [])

/-- An objective that cannot end early is flown until its budget is used up. -/
theorem Punctual.leg
    (punctual : Punctual mission)
    {index first : Nat}
    {objective : Objective}
    (planned : mission[index]? = some objective)
    (rests : cadence.pilot mission first = resting (mission.drop index)) :
    cadence.Leg mission first (first + cadence.stay objective) objective
      (mission.drop (index + 1)) .budgetElapsed := by
  obtain ⟨inside, rfl⟩ := List.getElem?_eq_some_iff.mp planned
  rw [List.drop_eq_getElem_cons inside] at rests
  obtain ⟨elapsed, reason, -, leg, onTime⟩ := exists_leg rests
  obtain ⟨rfl, rfl⟩ := onTime fun record ends =>
    punctual _ (List.getElem_mem inside) ⟨ends.earlyExit, ends.driven⟩
  exact leg

/-- At each departure the autopilot rests with the objectives that are left. -/
theorem Punctual.rests
    (cadence : Cadence)
    (punctual : Punctual mission)
    (nonempty : mission ≠ [])
    {index : Nat}
    (inside : index ≤ mission.length) :
    cadence.pilot mission (cadence.departure mission index) = resting (mission.drop index) := by
  induction index with
  | zero =>
      exact cadence.pilot_zero nonempty
  | succ index inductionHypothesis =>
      have planned := List.getElem?_eq_getElem inside
      have leg := punctual.leg planned (inductionHypothesis (Nat.le_of_lt inside))
      rw [cadence.departure_succ planned]
      exact leg.arrival (Nat.le_add_right _ _)

/-- Each objective of a mission is flown from its departure to the end of its stay. -/
theorem Punctual.legOf
    (punctual : Punctual mission)
    {index : Nat}
    {objective : Objective}
    (planned : mission[index]? = some objective) :
    cadence.Leg mission (cadence.departure mission index)
      (cadence.departure mission index + cadence.stay objective) objective
      (mission.drop (index + 1)) .budgetElapsed := by
  obtain ⟨inside, -⟩ := List.getElem?_eq_some_iff.mp planned
  exact punctual.leg planned
    (punctual.rests cadence (ne_nil_of_planned planned) (Nat.le_of_lt inside))

/-- Only the last objective of a mission is retired in the last tick of the mission. -/
theorem terminus_eq_iff
    {index number : Nat}
    {objective : Objective}
    (planned : mission[index]? = some objective)
    (notOver : number ≤ cadence.departure mission index + cadence.stay objective) :
    number = cadence.terminus mission ↔
      number = cadence.departure mission index + cadence.stay objective ∧
        mission.drop (index + 1) = [] := by
  obtain ⟨inside, -⟩ := List.getElem?_eq_some_iff.mp planned
  have ends := cadence.departure_length (ne_nil_of_planned planned)
  have next := cadence.departure_succ planned
  rw [List.drop_eq_nil_iff]
  constructor
  · rintro rfl
    by_cases last : mission.length ≤ index + 1
    · have same : index + 1 = mission.length := by
        omega
      rw [same] at next
      exact ⟨by omega, last⟩
    · obtain ⟨after, other⟩ : ∃ after, mission[index + 1]? = some after :=
        ⟨_, List.getElem?_eq_getElem (by omega)⟩
      have later := cadence.departure_succ other
      have order := cadence.departure_mono mission
        (show index + 1 + 1 ≤ mission.length by omega)
      omega
  · rintro ⟨rfl, last⟩
    have same : index + 1 = mission.length := by
      omega
    rw [same] at next
    omega

/-- What the ticks of a mission find and report if no objective ends early. -/
structure KeepsTimetable
    (cadence : Cadence)
    (mission : List Objective) :
    Prop where
  /-- The ticks of a stay find the objectives from that one on. -/
  flown :
    ∀ {index objective number},
      mission[index]? = some objective →
      cadence.departure mission index ≤ number →
      number ≤ cadence.departure mission index + cadence.stay objective →
      (cadence.pilot mission number).queue = mission.drop index
  started :
    ∀ {number label},
      .started label ∈ cadence.events mission number ↔
        ∃ index objective,
          mission[index]? = some objective ∧
          objective.label = label ∧
          number = cadence.departure mission index
  retired :
    ∀ {number label reason},
      .retired label reason ∈ cadence.events mission number ↔
        ∃ index objective,
          mission[index]? = some objective ∧
          objective.label = label ∧
          reason = .budgetElapsed ∧
          number = cadence.departure mission index + cadence.stay objective
  ended :
    ∀ number,
      (cadence.events mission number).count .outOfObjectives =
        if number = cadence.terminus mission then 1 else 0
  silent :
    ∀ {number},
      cadence.terminus mission < number →
      cadence.output mission number = .quiet

/-- The end of the objectives is reported once. -/
theorem count_outOfObjectives
    {last : Nat}
    (ended : .outOfObjectives ∈ cadence.events mission last)
    (number : Nat) :
    (cadence.events mission number).count .outOfObjectives =
      if number = last then 1 else 0 := by
  rcases Nat.lt_trichotomy number last with before | rfl | behind
  · rw [if_neg (Nat.ne_of_lt before)]
    apply List.count_eq_zero_of_not_mem
    intro endedBefore
    simp [events, silent_of_ended endedBefore before, TickOutput.quiet] at ended
  · rw [if_pos rfl]
    obtain ⟨label, reason, within⟩ :=
      exists_tickEvents_sublist (cadence.pilot mission number) (cadence.instant number)
        (cadence.records number)
    have most := within.count_le AutopilotEvent.outOfObjectives
    exact Nat.le_antisymm most (List.count_pos_iff.mpr ended)
  · rw [if_neg (Nat.ne_of_gt behind), events, silent_of_ended ended behind]
    rfl

/-- The last tick of a punctual mission ends it. -/
theorem Punctual.ended
    (cadence : Cadence)
    (punctual : Punctual mission)
    (nonempty : mission ≠ []) :
    .outOfObjectives ∈ cadence.events mission (cadence.terminus mission) := by
  have before : cadence.terminus mission < cadence.departure mission mission.length := by
    rw [cadence.departure_length nonempty]
    exact Nat.lt_succ_self _
  obtain ⟨index, objective, planned, started, notOver⟩ := exists_stay mission.length before
  obtain ⟨last, final⟩ := (terminus_eq_iff planned notOver).mp rfl
  rw [(punctual.legOf planned).events_eq started notOver, if_pos last, if_pos final]
  simp

/-- A tick that reports anything belongs to the stay of an objective. -/
theorem Punctual.exists_stay
    (punctual : Punctual mission)
    (nonempty : mission ≠ [])
    {number : Nat}
    {event : AutopilotEvent}
    (reported : event ∈ cadence.events mission number) :
    ∃ index objective,
      mission[index]? = some objective ∧
      cadence.departure mission index ≤ number ∧
      number ≤ cadence.departure mission index + cadence.stay objective := by
  apply Cadence.exists_stay mission.length
  rw [cadence.departure_length nonempty]
  by_contra behind
  have silent := silent_of_ended (punctual.ended cadence nonempty)
    (show cadence.terminus mission < number by omega)
  simp [events, silent, TickOutput.quiet] at reported

/-- A mission without early exit keeps its timetable. -/
theorem Punctual.keepsTimetable
    (cadence : Cadence)
    (punctual : Punctual mission)
    (nonempty : mission ≠ []) :
    cadence.KeepsTimetable mission where
  flown := by
    intro index objective number planned started notOver
    rw [(punctual.legOf planned).aboard started notOver]
    obtain ⟨inside, rfl⟩ := List.getElem?_eq_some_iff.mp planned
    exact (List.drop_eq_getElem_cons inside).symm
  started := by
    intro number label
    constructor
    · intro reported
      obtain ⟨index, objective, planned, started, notOver⟩ :=
        punctual.exists_stay nonempty reported
      rw [(punctual.legOf planned).events_eq started notOver] at reported
      refine ⟨index, objective, planned, ?_⟩
      split_ifs at reported <;> simp_all
    · rintro ⟨index, objective, planned, rfl, rfl⟩
      simp [(punctual.legOf planned).events_eq (Nat.le_refl _) (Nat.le_add_right _ _)]
  retired := by
    intro number label reason
    constructor
    · intro reported
      obtain ⟨index, objective, planned, started, notOver⟩ :=
        punctual.exists_stay nonempty reported
      rw [(punctual.legOf planned).events_eq started notOver] at reported
      refine ⟨index, objective, planned, ?_⟩
      split_ifs at reported <;> simp_all
    · rintro ⟨index, objective, planned, rfl, rfl, rfl⟩
      simp [(punctual.legOf planned).events_eq (Nat.le_add_right _ _) (Nat.le_refl _)]
  ended :=
    count_outOfObjectives (punctual.ended cadence nonempty)
  silent :=
    silent_of_ended (punctual.ended cadence nonempty)

/-! ## Missions with early exit -/

/-- A mission at rest ends before the stays of its objectives are over. -/
theorem exists_ended
    {queue : List Objective}
    (nonempty : queue ≠ [])
    {first : Nat}
    (rests : cadence.pilot mission first = resting queue) :
    ∃ last,
      last < first + (queue.map fun objective => cadence.stay objective + 1).sum ∧
      .outOfObjectives ∈ cadence.events mission last := by
  induction queue generalizing first with
  | nil =>
      exact absurd rfl nonempty
  | cons objective others inductionHypothesis =>
      obtain ⟨elapsed, reason, within, leg, -⟩ := exists_leg rests
      have ordered := Nat.le_add_right first elapsed
      simp only [List.map_cons, List.sum_cons]
      cases others with
      | nil =>
          refine ⟨first + elapsed, by omega, ?_⟩
          simp [leg.events_eq ordered (Nat.le_refl _)]
      | cons next rest =>
          obtain ⟨last, less, ended⟩ :=
            inductionHypothesis (List.cons_ne_nil _ _) (leg.arrival ordered)
          exact ⟨last, by omega, ended⟩

/-- A mission ends once, no later than a given tick, and all ticks behind that are silent. -/
def EndsBy
    (cadence : Cadence)
    (mission : List Objective)
    (latest : Nat) :
    Prop :=
  ∃ last ≤ latest,
    (∀ number,
      (cadence.events mission number).count .outOfObjectives =
        if number = last then 1 else 0) ∧
    ∀ number, last < number → cadence.output mission number = .quiet

/-- No mission ends later than its terminus. -/
theorem endsBy_terminus
    (cadence : Cadence)
    (nonempty : mission ≠ []) :
    cadence.EndsBy mission (cadence.terminus mission) := by
  obtain ⟨last, less, ended⟩ := exists_ended nonempty (cadence.pilot_zero nonempty)
  have total := cadence.departure_length nonempty
  rw [departure, List.take_length] at total
  refine ⟨last, by omega, count_outOfObjectives ended, ?_⟩
  intro number behind
  exact silent_of_ended ended behind

/--
A mission keeps its timetable if no objective can end early, and ends no later than that if some
can.
-/
theorem mission_follows_timetable
    (cadence : Cadence)
    (nonempty : mission ≠ []) :
    (Punctual mission → cadence.KeepsTimetable mission) ∧
      cadence.EndsBy mission (cadence.terminus mission) :=
  ⟨fun punctual => punctual.keepsTimetable cadence nonempty, cadence.endsBy_terminus nonempty⟩

/-- Take off within five nanoseconds, then land in the tick in which that starts. -/
def hop : List Objective :=
  [.ofAction (.ofNanoseconds 5) .takeoff, .ofAction .zero .land]

/-- Ticks two nanoseconds apart, without telemetry. -/
def everyOther : Cadence where
  begun := ⟨0⟩
  interval := 2
  interval_pos := by
    decide
  records := fun _ => none

/-- Five nanoseconds are over three ticks behind the start, so the landing is tick number four. -/
theorem hop_follows_timetable :
    hop ≠ [] ∧
      Punctual hop ∧
      everyOther.KeepsTimetable hop ∧
      everyOther.departure hop 1 = 4 ∧
      everyOther.terminus hop = 4 := by
  have nonempty : hop ≠ [] := by
    simp [hop]
  have punctual : Punctual hop := by
    intro objective member
    simp only [hop, List.mem_cons, List.not_mem_nil, or_false] at member
    rcases member with rfl | rfl <;> simp [Objective.ofAction]
  exact ⟨nonempty, punctual, (everyOther.mission_follows_timetable nonempty).1 punctual, by decide,
    by decide⟩

end Cadence

end DroneSession
