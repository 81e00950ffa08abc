import DroneSession.Time

namespace DroneSession

/-!
# Ticks of a recording

Recordings count time in ticks of 100 nanoseconds since their start.
-/

namespace Tick

/-- The ticks of a second. -/
def perSecond : UInt64 :=
  10000000

/-- The nanoseconds of a tick. -/
def nanoseconds : UInt32 :=
  100

/-- The whole ticks of a duration; what needs more than 64 bits becomes the greatest count. -/
def ofDuration (elapsed : Duration) : UInt64 :=
  UInt64.ofNat (min (elapsed.nanoseconds / nanoseconds.toNat) (UInt64.size - 1))

private theorem subsecond_lt
    (ticks : UInt64) :
    ((ticks % perSecond).toUInt32 * nanoseconds).toNat < 1000000000 := by
  have bound : (ticks % perSecond).toNat < 10000000 := by
    simp only [perSecond, UInt64.toNat_mod]
    exact Nat.mod_lt _ (by decide)
  have narrow : (ticks % perSecond).toUInt32.toNat = (ticks % perSecond).toNat := by
    rw [UInt64.toNat_toUInt32]
    omega
  have factor : nanoseconds.toNat = 100 := rfl
  have product : (ticks % perSecond).toNat * 100 < 1000000000 := by
    omega
  rw [UInt32.toNat_mul, narrow, factor]
  exact Nat.lt_of_le_of_lt (Nat.mod_le _ _) product

/-- The duration of a number of ticks. -/
def toDuration (ticks : UInt64) : Duration where
  seconds := ticks / perSecond
  subsecond := (ticks % perSecond).toUInt32 * nanoseconds
  subsecond_lt := subsecond_lt ticks

end Tick

end DroneSession
