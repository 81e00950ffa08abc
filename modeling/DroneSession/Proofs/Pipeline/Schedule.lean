import DroneSession.Pipeline.Basic
import DroneSession.Proofs.Worker.Service

namespace DroneSession

/-!
# Schedules of a pipeline

Packets are pushed into a pipeline one after another, while the threads of its workers take their
steps in any order.  A worker sees its own part of such a schedule and nothing else, so what is
known of a worker alone holds of the workers of a pipeline.
-/

/-- A worker of a pipeline. -/
inductive PipelinePart where
  | navigation
  | video
  | recorder
  deriving DecidableEq

namespace PipelinePart

/-- Whether packets of a stream go to a worker. -/
def takes
    (part : PipelinePart)
    (kind : PacketKind) :
    Bool :=
  match part, kind with
  | .recorder, _ => true
  | .navigation, .navigation => true
  | .video, .video => true
  | _, _ => false

end PipelinePart

/-- One push, or one step of the thread of a worker. -/
inductive PipelineOperation where
  | push (packet : Packet)
  /-- The thread of a worker takes a message. -/
  | consume (part : PipelinePart)
  /-- The thread of a worker leaves its loop behind. -/
  | close (part : PipelinePart)
  deriving DecidableEq

namespace PipelineOperation

/-- The packet that is pushed in an operation. -/
def packet? : PipelineOperation → Option Packet
  | .push content => some content
  | .consume _ => none
  | .close _ => none

/-- What a worker sees of an operation. -/
def seenBy
    (part : PipelinePart) :
    PipelineOperation → Option WorkerOperation
  | .push packet => if part.takes packet.kind then some (.enqueue packet) else none
  | .consume other => if other = part then some .consume else none
  | .close other => if other = part then some .close else none

end PipelineOperation

/-- The packets that are pushed in a schedule. -/
def pushedIn (schedule : List PipelineOperation) : List Packet :=
  schedule.filterMap PipelineOperation.packet?

/-- What a worker sees of a schedule. -/
def scheduleOf
    (part : PipelinePart)
    (schedule : List PipelineOperation) :
    List WorkerOperation :=
  schedule.filterMap (PipelineOperation.seenBy part)

/-- What a worker is offered in a schedule is what was pushed of its stream, or all of it. -/
theorem offeredIn_scheduleOf
    (part : PipelinePart)
    (schedule : List PipelineOperation) :
    offeredIn (scheduleOf part schedule) =
      (pushedIn schedule).filter fun packet => part.takes packet.kind := by
  induction schedule with
  | nil => rfl
  | cons operation schedule inductionHypothesis =>
      unfold offeredIn scheduleOf pushedIn at *
      cases operation with
      | push packet =>
          cases taken : part.takes packet.kind <;>
            simp [PipelineOperation.seenBy, PipelineOperation.packet?, WorkerOperation.packet?,
              taken, inductionHypothesis]
      | consume other =>
          by_cases same : other = part <;>
            simp [List.filterMap_cons, PipelineOperation.seenBy, PipelineOperation.packet?, same,
              inductionHypothesis]
      | close other =>
          by_cases same : other = part <;>
            simp [List.filterMap_cons, PipelineOperation.seenBy, PipelineOperation.packet?, same,
              inductionHypothesis]

/-- Nobody stops a worker in a schedule. -/
theorem scheduleOf_goesOn
    (part : PipelinePart)
    (schedule : List PipelineOperation) :
    ∀ operation ∈ scheduleOf part schedule, operation ≠ .stop := by
  intro operation member stops
  obtain ⟨source, -, seen⟩ := List.mem_filterMap.mp member
  subst stops
  cases source <;> simp [PipelineOperation.seenBy] at seen

namespace Pipeline

variable {δ ω : Type}

/-- The pipeline after one of its workers has done something. -/
def act
    (pipeline : Pipeline δ ω)
    (part : PipelinePart)
    (operation : WorkerOperation) :
    Pipeline δ ω :=
  match part with
  | .navigation => { pipeline with navigation := pipeline.navigation.perform operation }
  | .video => { pipeline with video := pipeline.video.perform operation }
  | .recorder =>
      { pipeline with
        recording := pipeline.recording.map fun recording =>
          { recording with worker := recording.worker.perform operation } }

/-- The pipeline after one operation. -/
def perform
    (pipeline : Pipeline δ ω) :
    PipelineOperation → Pipeline δ ω
  | .push packet => (pipeline.push packet).1
  | .consume part => pipeline.act part .consume
  | .close part => pipeline.act part .close

/-- The pipeline after a schedule. -/
def run
    (pipeline : Pipeline δ ω)
    (schedule : List PipelineOperation) :
    Pipeline δ ω :=
  schedule.foldl perform pipeline

/-- The navigation worker goes through what it sees of an operation. -/
theorem navigation_perform
    (pipeline : Pipeline δ ω)
    (operation : PipelineOperation) :
    (pipeline.perform operation).navigation =
      pipeline.navigation.run (operation.seenBy .navigation).toList := by
  cases operation with
  | push packet =>
      cases kind : packet.kind <;>
        simp [perform, push, tap, forward, kind, PipelineOperation.seenBy, PipelinePart.takes,
          Worker.run, Worker.perform]
  | consume part => cases part <;> rfl
  | close part => cases part <;> rfl

/-- The video worker goes through what it sees of an operation. -/
theorem video_perform
    (pipeline : Pipeline δ ω)
    (operation : PipelineOperation) :
    (pipeline.perform operation).video =
      pipeline.video.run (operation.seenBy .video).toList := by
  cases operation with
  | push packet =>
      cases kind : packet.kind <;>
        simp [perform, push, tap, forward, kind, PipelineOperation.seenBy, PipelinePart.takes,
          Worker.run, Worker.perform]
  | consume part => cases part <;> rfl
  | close part => cases part <;> rfl

/-- The recorder goes through what it sees of an operation, and the recording goes on. -/
theorem recording_perform
    (pipeline : Pipeline δ ω)
    (operation : PipelineOperation) :
    (pipeline.perform operation).recording =
      pipeline.recording.map fun recording =>
        { recording with
          worker := recording.worker.run (operation.seenBy .recorder).toList } := by
  cases operation with
  | push packet =>
      cases kind : packet.kind <;>
        simp [perform, push, tap, forward, kind, PipelineOperation.seenBy, PipelinePart.takes,
          Worker.run, Worker.perform]
  | consume part =>
      cases part <;>
        simp [perform, act, PipelineOperation.seenBy, Worker.run]
  | close part =>
      cases part <;>
        simp [perform, act, PipelineOperation.seenBy, Worker.run]

theorem scheduleOf_cons
    (part : PipelinePart)
    (operation : PipelineOperation)
    (schedule : List PipelineOperation) :
    scheduleOf part (operation :: schedule) =
      (operation.seenBy part).toList ++ scheduleOf part schedule := by
  unfold scheduleOf
  rw [List.filterMap_cons]
  cases operation.seenBy part <;> rfl

/-- The navigation worker does what it would do alone under its part of the schedule. -/
theorem navigation_run
    (pipeline : Pipeline δ ω)
    (schedule : List PipelineOperation) :
    (pipeline.run schedule).navigation =
      pipeline.navigation.run (scheduleOf .navigation schedule) := by
  induction schedule generalizing pipeline with
  | nil => rfl
  | cons operation schedule inductionHypothesis =>
      rw [scheduleOf_cons, Worker.run_append, ← navigation_perform]
      exact inductionHypothesis (pipeline.perform operation)

/-- The video worker goes through what it sees of a schedule. -/
theorem video_run
    (pipeline : Pipeline δ ω)
    (schedule : List PipelineOperation) :
    (pipeline.run schedule).video =
      pipeline.video.run (scheduleOf .video schedule) := by
  induction schedule generalizing pipeline with
  | nil => rfl
  | cons operation schedule inductionHypothesis =>
      rw [scheduleOf_cons, Worker.run_append, ← video_perform]
      exact inductionHypothesis (pipeline.perform operation)

/-- The recorder goes through what it sees of a schedule, and the recording goes on. -/
theorem recording_run
    (pipeline : Pipeline δ ω)
    (schedule : List PipelineOperation) :
    (pipeline.run schedule).recording =
      pipeline.recording.map fun recording =>
        { recording with
          worker := recording.worker.run (scheduleOf .recorder schedule) } := by
  induction schedule generalizing pipeline with
  | nil =>
      change pipeline.recording = _
      cases pipeline.recording <;> rfl
  | cons operation schedule inductionHypothesis =>
      have rest := inductionHypothesis (pipeline.perform operation)
      rw [recording_perform, Option.map_map] at rest
      rw [scheduleOf_cons]
      simp only [Worker.run_append]
      exact rest

end Pipeline

end DroneSession
