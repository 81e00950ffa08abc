import DroneSession.Time

namespace DroneSession

/-!
# Rates of a subscription

A subscriber sees every published value, or at most a number of values each second.
-/

/-- How often a subscriber wants to see the latest value. -/
inductive UpdateRate where
  /-- Every published value. -/
  | native
  /-- At most this many values each second, the newest first. -/
  | max (hertz : UInt32)
  deriving Repr, DecidableEq

namespace UpdateRate

/-- A limit of zero or of at least the rate of the source limits nothing. -/
def normalize
    (rate : UpdateRate)
    (sourceHertz : Float) :
    UpdateRate :=
  match rate with
  | .native => .native
  | .max hertz =>
      if hertz = 0 then
        .native
      else if sourceHertz ≤ Number.doubleOfNat hertz.toNat then
        .native
      else
        .max hertz

/-- The time between two values, where the rate limits anything. -/
def interval?
    (rate : UpdateRate)
    (sourceHertz : Float) :
    Option Duration :=
  match rate.normalize sourceHertz with
  | .native => none
  | .max hertz => Duration.ofSeconds? (1.0 / Number.doubleOfNat hertz.toNat)

end UpdateRate

end DroneSession
