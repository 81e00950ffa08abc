import DroneSession.Bytes
import DroneSession.Error

namespace DroneSession

/-!
# Byte sources

A source delivers its bytes over any number of reads.  Each read may first be interrupted a number
of times and then returns some of the bytes that were asked for; a source may also fail for good
from some position on.  `Source.fill` reads on until it has what it needs, and what it collects does
not depend on how the bytes were delivered.
-/

/-- How one read is served. -/
structure Delivery where
  /-- How often the read is interrupted before it returns bytes. -/
  interruptions : Nat
  /-- The number of bytes after the first that the read returns at most; none limits nothing. -/
  further : Option Nat
  deriving Repr, DecidableEq

namespace Delivery

/-- A read that returns all it is asked for. -/
def whole : Delivery where
  interruptions := 0
  further := none

/-- The number of bytes that a read of `requested` bytes returns at most. -/
def allows
    (delivery : Delivery)
    (requested : Nat) :
    Nat :=
  match delivery.further with
  | none => requested
  | some further => min requested (further + 1)

end Delivery

/-- A source of bytes and how it will serve the reads to come. -/
structure Source where
  rest : Bytes
  position : Nat
  schedule : Nat → Delivery
  turn : Nat
  /-- How often the next read is still interrupted. -/
  waiting : Nat
  /-- The position from which on every read fails, and how it fails. -/
  broken : Option (Nat × StreamFault)

/-- What one read of a source comes to. -/
inductive ReadAnswer where
  | interrupted
  | bytes (bytes : Bytes)
  | failed (fault : StreamFault)
  deriving Repr, DecidableEq

namespace Source

/-- A source that serves every read in full. -/
def ofBytes (bytes : Bytes) : Source where
  rest := bytes
  position := 0
  schedule := fun _ => .whole
  turn := 0
  waiting := 0
  broken := none

/-- A source that serves its reads by a schedule and may break. -/
def scheduled
    (bytes : Bytes)
    (schedule : Nat → Delivery)
    (broken : Option (Nat × StreamFault)) :
    Source where
  rest := bytes
  position := 0
  schedule := schedule
  turn := 0
  waiting := (schedule 0).interruptions
  broken := broken

/-- Hand out at most `count` bytes and go on to the next read of the schedule. -/
def deliver
    (source : Source)
    (count : Nat) :
    Source × ReadAnswer :=
  let bytes := source.rest.take count
  ( { source with
      rest := source.rest.drop count
      position := source.position + bytes.length
      turn := source.turn + 1
      waiting := (source.schedule (source.turn + 1)).interruptions },
    .bytes bytes )

/-- Read at most `requested` bytes, which is not zero. -/
def read
    (source : Source)
    (requested : Nat) :
    Source × ReadAnswer :=
  match source.waiting with
  | waiting + 1 => ({ source with waiting := waiting }, .interrupted)
  | 0 =>
      let allowed := (source.schedule source.turn).allows requested
      match source.broken with
      | none => source.deliver allowed
      | some (limit, fault) =>
          if limit ≤ source.position then
            (source, .failed fault)
          else
            source.deliver (min allowed (limit - source.position))

/-- What `fill` collected, and the failure that ended it early. -/
structure Filled where
  source : Source
  bytes : Bytes
  fault : Option StreamFault

private theorem waiting_lt_of_interrupted
    {source next : Source}
    {requested : Nat}
    (answered : source.read requested = (next, .interrupted)) :
    next.waiting < source.waiting := by
  unfold read at answered
  split at answered
  · rename_i waiting same
    have := congrArg Prod.fst answered
    subst this
    simp only [same]
    omega
  · simp only at answered
    split at answered
    · simp [deliver] at answered
    · split at answered <;> simp [deliver] at answered

/--
Read until `needed` bytes are collected, the source ends or it fails.  Interrupted reads are tried
again.
-/
def fill
    (source : Source)
    (needed : Nat) :
    Filled :=
  if _nothing : needed = 0 then
    ⟨source, [], none⟩
  else
    match _answered : source.read needed with
    | (next, .interrupted) => fill next needed
    | (next, .failed fault) => ⟨next, [], some fault⟩
    | (next, .bytes []) => ⟨next, [], none⟩
    | (next, .bytes (byte :: bytes)) =>
        let filled := fill next (needed - (bytes.length + 1))
        { filled with bytes := byte :: (bytes ++ filled.bytes) }
termination_by (needed, source.waiting)
decreasing_by
  · exact Prod.Lex.right _ (waiting_lt_of_interrupted _answered)
  · exact Prod.Lex.left _ _ (by omega)

end Source

end DroneSession
