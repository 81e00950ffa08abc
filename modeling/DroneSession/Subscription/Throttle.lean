namespace DroneSession

/-!
# Throttling

A throttle stands between a source of values and a subscriber.  It keeps only the newest value that
the source has delivered, and hands it on when its ticker is ready.  An idle source does not end the
throttle; the end of the source does, after the value that is still held was handed on.
-/

/-- What a source answers when it is asked for its next value. -/
inductive StreamAnswer (α : Type) where
  | item (value : α)
  /-- No value is there yet. -/
  | pending
  /-- No value will ever come. -/
  | ended
  deriving Repr, DecidableEq

/-- A value that waits for the ticker, and whether the source has ended. -/
structure Throttle (α : Type) where
  held : Option α
  sourceEnded : Bool
  deriving Repr, DecidableEq

/-- What a poll leaves behind, and its answer. -/
structure Polled (α : Type) where
  throttle : Throttle α
  /-- The answers that the source will give from now on. -/
  script : List (StreamAnswer α)
  answer : StreamAnswer α
  deriving Repr, DecidableEq

namespace Throttle

variable {α : Type}

/-- A throttle that holds nothing. -/
def start : Throttle α where
  held := none
  sourceEnded := false

/-- Ask the source until it has nothing more to say; a newer value replaces the one that is held. -/
def drain
    (throttle : Throttle α) :
    (script : List (StreamAnswer α)) →
    Throttle α × List (StreamAnswer α)
  | [] => (throttle, [])
  | .item value :: script => drain { throttle with held := some value } script
  | .pending :: script => (throttle, script)
  | .ended :: script => ({ throttle with sourceEnded := true }, script)

/-- Take in what the source has delivered; after its end it is not asked again. -/
def absorb
    (throttle : Throttle α)
    (script : List (StreamAnswer α)) :
    Throttle α × List (StreamAnswer α) :=
  if throttle.sourceEnded then
    (throttle, script)
  else
    throttle.drain script

/-- Ask a throttle for its next value; the tick is used up exactly if a value is handed on. -/
def poll
    (throttle : Throttle α)
    (tickReady : Bool)
    (script : List (StreamAnswer α)) :
    Polled α :=
  let (throttle, script) := throttle.absorb script
  match throttle.held with
  | none => ⟨throttle, script, if throttle.sourceEnded then .ended else .pending⟩
  | some value =>
      if tickReady then
        ⟨{ throttle with held := none }, script, .item value⟩
      else
        ⟨throttle, script, .pending⟩

end Throttle

/-- A ticker, whose first tick is due as soon as somebody waits for it. -/
structure Ticker where
  period : Nat
  due : Option Nat
  deriving Repr, DecidableEq

namespace Ticker

/-- A ticker that nobody has waited for. -/
def start (period : Nat) : Ticker where
  period := period
  due := none

/-- How late a tick may be used without shifting those after it, in milliseconds. -/
def tolerance : Nat :=
  5

/-- Whether a tick is due, which the first one always is. -/
def isReady
    (ticker : Ticker)
    (now : Nat) :
    Bool :=
  match ticker.due with
  | none => true
  | some due => due ≤ now

/-- Use up a tick; one that is late beyond tolerance delays all later ones. -/
def advance
    (ticker : Ticker)
    (now : Nat) :
    Ticker :=
  match ticker.due with
  | none => { ticker with due := some (now + ticker.period) }
  | some due =>
      if due + tolerance < now then
        { ticker with due := some (now + ticker.period) }
      else
        { ticker with due := some (due + ticker.period) }

end Ticker

/-- A throttled subscriber on a clock that counts milliseconds. -/
structure Timeline (α : Type) where
  throttle : Throttle α
  ticker : Ticker
  /-- The values handed on, each with its time. -/
  received : List (Nat × α)
  /-- When the subscriber saw the end. -/
  finished : Option Nat
  deriving Repr, DecidableEq

namespace Timeline

variable {α : Type}

/-- A subscriber that has seen nothing. -/
def start (period : Nat) : Timeline α where
  throttle := .start
  ticker := .start period
  received := []
  finished := none

/-- Poll a throttle at a time and note what it brings. -/
def poll
    (timeline : Timeline α)
    (now : Nat)
    (script : List (StreamAnswer α)) :
    Timeline α :=
  let polled := timeline.throttle.poll (timeline.ticker.isReady now) script
  let timeline := { timeline with throttle := polled.throttle }
  match polled.answer with
  | .item value =>
      { timeline with
        ticker := timeline.ticker.advance now
        received := timeline.received ++ [(now, value)] }
  | .pending => timeline
  | .ended => { timeline with finished := some (timeline.finished.getD now) }

/-- Poll until there is nothing to be had at a time; a value is followed by a second poll. -/
def wake
    (timeline : Timeline α)
    (now : Nat)
    (script : List (StreamAnswer α)) :
    Timeline α :=
  (timeline.poll now script).poll now []

/-- When the ticker wakes a subscriber for whom a value is held. -/
def alarm? (timeline : Timeline α) : Option Nat :=
  match timeline.throttle.held with
  | none => none
  | some _ => timeline.ticker.due

/-- Wake the subscriber by its ticker and by a schedule of source answers, whichever comes first. -/
def run
    (timeline : Timeline α)
    (schedule : List (Nat × List (StreamAnswer α))) :
    (fuel : Nat) → Timeline α
  | 0 => timeline
  | fuel + 1 =>
      match timeline.alarm?, schedule with
      | none, [] => timeline
      | some due, [] => (timeline.wake due []).run [] fuel
      | none, (now, script) :: schedule => (timeline.wake now script).run schedule fuel
      | some due, (now, script) :: others =>
          if now ≤ due then
            (timeline.wake now script).run others fuel
          else
            (timeline.wake due []).run schedule fuel

/--
The schedule of a source that delivers values at given times and then ends; nothing happens earlier
than what is in front of it.
-/
def schedule
    (ending latest : Nat) :
    (arrivals : List (Nat × α)) → List (Nat × List (StreamAnswer α))
  | [] => [(max latest ending, [.ended])]
  | (given, value) :: arrivals =>
      let now := max latest given
      match schedule ending now arrivals with
      | (next, script) :: others =>
          if now = next then
            (now, .item value :: script) :: others
          else
            (now, [.item value]) :: (next, script) :: others
      | [] => [(now, [.item value])]

/-- What a subscriber sees of such a source; each time wakes it at most twice. -/
def replay
    (period ending : Nat)
    (arrivals : List (Nat × α)) :
    Timeline α :=
  let schedule := schedule ending 0 arrivals
  (start period).run schedule (2 * schedule.length + 2)

end Timeline

end DroneSession
