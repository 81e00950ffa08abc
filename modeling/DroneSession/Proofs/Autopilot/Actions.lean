import DroneSession.Proofs.Autopilot.Composition
import DroneSession.Proofs.Autopilot.Flight
import DroneSession.Proofs.Autopilot.Retirement

namespace DroneSession

/-!
# Discrete actions

An action such as taking off is sent once, in the tick that starts its objective, together with a
hover command; from then on the objective sends nothing.  Every start that an operation reports is
attributed to the first objective of the queue, so the actions of a run are those of the objectives
that it starts, in the same order.
-/

namespace AutopilotEvent

end AutopilotEvent

namespace LogEntry

end LogEntry

/-- Nothing is sent, unless a tick that drains the queue has the drone hover. -/
structure TickOutput.IsSilent (output : TickOutput) : Prop where
  action : output.action = none
  command :
    output.command =
      if .outOfObjectives ∈ output.events then
        some .hover
      else
        none

namespace Autopilot

/-! ## The tick that starts an objective -/

/-- A tick reports the start of the first objective of the queue. -/
structure Starts
    (autopilot : Autopilot)
    (now : Instant)
    (record : Option NavigationRecord)
    (objective : Objective) :
    Prop where
  first : autopilot.queue.head? = some objective
  reported : .started objective.label ∈ autopilot.tickEvents now record

section

variable {autopilot : Autopilot} {now : Instant} {record : Option NavigationRecord}
  {objective : Objective} {action : DiscreteAction}

/-- An objective starts when an active autopilot finds it first and nothing in progress. -/
theorem starts_iff :
    autopilot.Starts now record objective ↔
      autopilot.active = true ∧
        autopilot.started = none ∧
        autopilot.queue.head? = some objective := by
  constructor
  · rintro ⟨first, reported⟩
    obtain ⟨others, queued⟩ := List.head?_eq_some_iff.mp first
    cases active : autopilot.active with
    | false =>
        simp [tickEvents, tick_of_idle active, TickOutput.quiet] at reported
    | true =>
        refine ⟨rfl, ?_, first⟩
        obtain ⟨endings, reports, startless⟩ := exists_tickEvents_eq active queued now record
        cases started : autopilot.started with
        | none =>
            rfl
        | some began =>
            rw [reports] at reported
            simp only [startEvents, started, Option.isNone_some, Bool.false_eq_true, if_false,
              List.nil_append] at reported
            exact absurd reported (startless _)
  · rintro ⟨active, waiting, first⟩
    obtain ⟨others, queued⟩ := List.head?_eq_some_iff.mp first
    obtain ⟨endings, reports, -⟩ := exists_tickEvents_eq active queued now record
    exact ⟨first, by simp [reports, startEvents, waiting]⟩

end

/-! ## The ticks behind it -/

/-- An objective that is interrupted sends its action again when it restarts. -/
example :
    let landing := Objective.ofAction (.ofNanoseconds 5) .land
    let operations : List AutopilotOperation :=
      [.enqueue landing, .setActive true, .tick ⟨0⟩ none, .tick ⟨1⟩ none, .setActive false,
        .setActive true, .tick ⟨2⟩ none, .tick ⟨7⟩ none]
    (start.outputs operations).map TickOutput.action =
      [none, none, some .land, none, none, none, some .land, none] :=
  rfl

end Autopilot

end DroneSession
