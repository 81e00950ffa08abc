import DroneSession.Recording.Tick

namespace DroneSession

/-!
# The time of an entry

The ticks of an entry are the whole ticks between two instants, computed without a bound and cut off
at the greatest word.
-/

namespace Duration

/-- No span is longer than the longest one. -/
theorem nanoseconds_lt_limit
    (duration : Duration) :
    duration.nanoseconds < limit := by
  have secondsLess := duration.seconds.toNat_lt_size
  have restLess := duration.subsecond_lt
  simp only [nanoseconds, limit, UInt64.size] at *
  omega

/-- A span holds its number of nanoseconds, up to the longest span. -/
theorem nanoseconds_ofNanoseconds
    (value : Nat) :
    (ofNanoseconds value).nanoseconds = min value (limit - 1) := by
  have bounded : min value (limit - 1) < 1000000000 * UInt64.size := by
    simp only [limit, UInt64.size]
    omega
  have secondsLess : min value (limit - 1) / 1000000000 < UInt64.size :=
    Nat.div_lt_of_lt_mul bounded
  have restLess : min value (limit - 1) % 1000000000 < UInt32.size :=
    Nat.lt_trans (Nat.mod_lt _ (by decide)) (by decide)
  simp only [ofNanoseconds, nanoseconds]
  rw [UInt64.toNat_ofNat_of_lt' secondsLess, UInt32.toNat_ofNat_of_lt' restLess,
    Nat.div_add_mod]

end Duration

namespace Tick

/-- The ticks of a duration are its whole ticks, as far as a word counts them. -/
theorem toNat_ofDuration
    (elapsed : Duration) :
    (ofDuration elapsed).toNat = min (elapsed.nanoseconds / 100) (UInt64.size - 1) := by
  have bounded : min (elapsed.nanoseconds / nanoseconds.toNat) (UInt64.size - 1) < UInt64.size :=
    Nat.lt_of_le_of_lt (Nat.min_le_right _ _) (by decide)
  rw [ofDuration, UInt64.toNat_ofNat_of_lt' bounded]
  rfl

/-- The ticks of the time between two instants: none before the first, and at most the greatest. -/
theorem toNat_ofDuration_since
    (later earlier : Instant) :
    (ofDuration (later.since earlier)).toNat =
      min ((later.nanoseconds - earlier.nanoseconds).toNat / 100) (UInt64.size - 1) := by
  rw [toNat_ofDuration, Instant.since, Duration.nanoseconds_ofNanoseconds]
  -- The longest span has more ticks than a word counts, so cutting it off first changes nothing.
  generalize (later.nanoseconds - earlier.nanoseconds).toNat = elapsed
  simp only [Duration.limit, UInt64.size]
  omega

end Tick

end DroneSession
