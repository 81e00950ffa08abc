import DroneSession.Slot
import DroneSession.Subscription.Throttle
import DroneSession.UpdateRate

namespace DroneSession

/-!
# Subscriptions

A subscriber of a slot gets the newest value that it has not seen, at the rate that it asked for.
Once the writer is gone, the newest value is the last one.
-/

/-- A reader of one slot. -/
structure Subscription (α : Type) where
  /-- The number of published values that are older than everything still to be read. -/
  seen : Nat
  /-- The throttle, where the rate limits anything. -/
  throttle : Option (Throttle α)
  deriving Repr, DecidableEq

namespace Subscription

variable {α : Type}

/-- Subscribe to a slot whose writer publishes at a rate. -/
def start
    (rate : UpdateRate)
    (sourceHertz : Float) :
    Subscription α where
  seen := 0
  throttle := (rate.interval? sourceHertz).map fun _ => .start

/-- What a slot answers to a reader that has seen some of its values. -/
def sourceAnswer
    (slot : Slot α)
    (closed : Bool)
    (seen : Nat) :
    StreamAnswer α :=
  match slot.history with
  | [] => if closed then .ended else .pending
  | newest :: older =>
      if seen ≤ older.length then .item newest
      else if closed then .ended
      else .pending

/-- Ask for the next value. -/
def poll
    (subscription : Subscription α)
    (slot : Slot α)
    (closed tickReady : Bool) :
    Subscription α × StreamAnswer α :=
  let first := sourceAnswer slot closed subscription.seen
  let seen := slot.history.length
  match subscription.throttle with
  | none => ({ subscription with seen := max subscription.seen seen }, first)
  | some throttle =>
      let polled := throttle.poll tickReady [first, sourceAnswer slot closed seen]
      ( { seen := max subscription.seen seen
          throttle := some polled.throttle },
        polled.answer )

/-- What a reader still gets from a slot whose writer is gone; two polls reach the end. -/
def remaining
    (subscription : Subscription α)
    (slot : Slot α) :
    List α :=
  let (next, first) := subscription.poll slot true true
  match first with
  | .item value =>
      match (next.poll slot true true).2 with
      | .item last => [value, last]
      | _ => [value]
  | _ => []

end Subscription

end DroneSession
