namespace DroneSession

/-!
# Events of the autopilot

The autopilot reports when an objective starts, when it is retired and when none is left.
-/

/-- Why an objective was retired. -/
inductive RetireReason where
  | budgetElapsed
  | satisfied
  deriving Repr, DecidableEq

/-- What the autopilot tells those who listen. -/
inductive AutopilotEvent where
  | started (label : String)
  | retired (label : String) (reason : RetireReason)
  | outOfObjectives
  deriving Repr, DecidableEq

end DroneSession
