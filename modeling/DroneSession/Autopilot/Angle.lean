import DroneSession.Telemetry.Record

namespace DroneSession

/-!
# Angles

Headings are compared by the shortest turn between them, which lies above minus half a turn and up
to half a turn.
-/

/-- The remainder that is never negative. -/
def euclideanRemainder
    (dividend divisor : Float32) :
    Float32 :=
  let rest := Number.remainder dividend divisor
  if rest < 0.0 then rest + divisor.abs else rest

/-- Bring an angle in radians into the range of one turn around zero. -/
def wrapAngle (radians : Float32) : Float32 :=
  let half := NavigationRecord.halfTurn
  let wrapped := euclideanRemainder (radians + half) (2.0 * half) - half
  if wrapped ≤ -half then wrapped + 2.0 * half else wrapped

end DroneSession
