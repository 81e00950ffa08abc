import DroneSession.Autopilot.Event

namespace DroneSession

/-!
# Notifications

Workers, the player and the autopilot report to one supervisor and carry on.
-/

/-- What the supervisor is told. -/
inductive Notification where
  /-- A handler failed or panicked and its worker goes on. -/
  | workerFault (worker details : String)
  /-- A failure stopped a worker. -/
  | workerStopped (worker error : String)
  | autopilot (event : AutopilotEvent)
  /-- The player reached the end of a recording. -/
  | playbackFinished (entries : Nat)
  deriving Repr, DecidableEq

end DroneSession
