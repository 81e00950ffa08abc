import DroneSession.Number.Shortest

namespace DroneSession

/-!
# Durations and instants

A duration is a number of whole seconds that fits a 64-bit word and a rest below one second, in
nanoseconds.  `Duration.nanoseconds` is its value; every comparison and conversion goes through it.
-/

-- Powers are the built-in ones, also where other instances are in scope.
attribute [local instance (high)] instPowNat

/-- A span of time in seconds and nanoseconds. -/
structure Duration where
  seconds : UInt64
  subsecond : UInt32
  subsecond_lt : subsecond.toNat < 1000000000
  deriving DecidableEq

namespace Duration

/-- A duration in nanoseconds. -/
def nanoseconds (duration : Duration) : Nat :=
  -- The literal stands first because multiplication recurses on its second factor.
  1000000000 * duration.seconds.toNat + duration.subsecond.toNat

/-- The number of nanoseconds at which spans stop being representable. -/
def limit : Nat :=
  UInt64.size * 1000000000

private theorem remainder_lt
    (value : Nat) :
    (UInt32.ofNat (value % 1000000000)).toNat < 1000000000 := by
  have bound : value % 1000000000 < 1000000000 := Nat.mod_lt _ (by decide)
  rw [UInt32.toNat_ofNat']
  omega

/-- The span of a number of nanoseconds; what is too long becomes the longest span. -/
def ofNanoseconds (value : Nat) : Duration :=
  let bounded := min value (limit - 1)
  { seconds := UInt64.ofNat (bounded / 1000000000)
    subsecond := UInt32.ofNat (bounded % 1000000000)
    subsecond_lt := remainder_lt bounded }

/-- The span of a number of milliseconds. -/
def ofMilliseconds (value : UInt64) : Duration :=
  ofNanoseconds (value.toNat * 1000000)

/-- The empty span. -/
def zero : Duration :=
  ofNanoseconds 0

instance : Inhabited Duration :=
  ⟨zero⟩

/-- The span in seconds, rounded like the sum of its two parts. -/
def inSeconds (duration : Duration) : Float :=
  Number.doubleOfNat duration.seconds.toNat
    + Number.doubleOfNat duration.subsecond.toNat / 1000000000

/--
The span nearest to a number of seconds, a tie going to the even nanosecond.  A negative or infinite
number and one that needs more than 64 bits of seconds have none.
-/
def ofSeconds? (value : Float) : Option Duration :=
  match Number.Format.double.datum value.toBits.toNat with
  | .finite negative mantissa exponent =>
      let rounded :=
        Number.roundHalfEven
          (1000000000 * mantissa * 2 ^ exponent.toNat)
          (2 ^ (-exponent).toNat)
      if negative ∧ mantissa ≠ 0 then
        none
      else if rounded < limit then
        some (ofNanoseconds rounded)
      else
        none
  | _ => none

/-- A whole number with an exact fraction of `places` digits, without trailing zeros. -/
private def writeFraction
    (whole fraction places : Nat) :
    String :=
  if fraction = 0 then
    toString whole
  else
    let decimal : Number.Decimal := ⟨whole * 10 ^ places + fraction, -(places : Int)⟩
    let shortened := decimal.normalize places
    Number.Layout.message.writePositional shortened

/-- The span in the largest unit of which it holds at least one, with an exact fraction. -/
def inspect (duration : Duration) : String :=
  let fraction := duration.subsecond.toNat
  if 0 < duration.seconds.toNat then
    writeFraction duration.seconds.toNat fraction 9 ++ "s"
  else if 1000000 ≤ fraction then
    writeFraction (fraction / 1000000) (fraction % 1000000) 6 ++ "ms"
  else if 1000 ≤ fraction then
    writeFraction (fraction / 1000) (fraction % 1000) 3 ++ "µs"
  else
    toString fraction ++ "ns"

end Duration

/-- A point in time, in nanoseconds from an origin that all instants share. -/
structure Instant where
  nanoseconds : Int
  deriving Repr, DecidableEq

namespace Instant

/-- The time from an earlier instant to a later one; nothing has passed if it is not earlier. -/
def since
    (later earlier : Instant) :
    Duration :=
  Duration.ofNanoseconds (later.nanoseconds - earlier.nanoseconds).toNat

end Instant

end DroneSession
