import DroneSession.Proofs.Recording.Endurance
import DroneSession.Proofs.Recording.Tick

namespace DroneSession

/-!
# Rounding to ticks

A duration is rounded down to whole ticks, and a count of ticks is a duration again.  The two
conversions determine each other: a count of ticks fits into a duration exactly if it is at most the
count of the duration.  So neither conversion changes an order, and a recording keeps the order of
its packets in time.
-/

namespace Duration

/-- Durations compare by their seconds, and by the rest where these are the same. -/
instance : LE Duration where
  le shorter longer :=
    shorter.seconds < longer.seconds ∨
      shorter.seconds = longer.seconds ∧ shorter.subsecond ≤ longer.subsecond

/-- The order of durations is that of their nanoseconds, for the rest is less than a second. -/
theorem le_iff_nanoseconds_le
    {shorter longer : Duration} :
    shorter ≤ longer ↔ shorter.nanoseconds ≤ longer.nanoseconds := by
  have restOfShorter := shorter.subsecond_lt
  have restOfLonger := longer.subsecond_lt
  change shorter.seconds < longer.seconds ∨
    shorter.seconds = longer.seconds ∧ shorter.subsecond ≤ longer.subsecond ↔ _
  rw [UInt64.lt_iff_toNat_lt, ← UInt64.toNat_inj, UInt32.le_iff_toNat_le, nanoseconds, nanoseconds]
  omega

end Duration

namespace Tick

/-- The ticks below a second fit into the narrower word. -/
theorem toNat_ticks_below_second (ticks : UInt64) :
    (ticks % perSecond).toUInt32.toNat = ticks.toNat % 10000000 := by
  have below : ticks.toNat % 10000000 < 10000000 := Nat.mod_lt _ (by decide)
  rw [UInt64.toNat_toUInt32, UInt64.toNat_mod]
  exact Nat.mod_eq_of_lt (Nat.lt_trans below (by decide))

/-- The ticks below a second, times the length of a tick, still fit into that word. -/
theorem toNat_subsecond_toDuration (ticks : UInt64) :
    (toDuration ticks).subsecond.toNat = 100 * (ticks.toNat % 10000000) := by
  have product : 100 * (ticks.toNat % 10000000) < UInt32.size := by
    simp only [UInt32.size]
    omega
  change ((ticks % perSecond).toUInt32 * nanoseconds).toNat = _
  rw [UInt32.toNat_mul, toNat_ticks_below_second, Nat.mul_comm]
  exact Nat.mod_eq_of_lt product

theorem toNat_seconds_toDuration (ticks : UInt64) :
    (toDuration ticks).seconds.toNat = ticks.toNat / 10000000 :=
  UInt64.toNat_div ticks perSecond

/-- A count of ticks becomes exactly as many times 100 nanoseconds. -/
theorem nanoseconds_toDuration (ticks : UInt64) :
    (toDuration ticks).nanoseconds = 100 * ticks.toNat := by
  rw [Duration.nanoseconds, toNat_seconds_toDuration, toNat_subsecond_toDuration]
  omega

/-- A count of ticks fits into a duration exactly if the duration has that many ticks. -/
theorem toDuration_le_iff
    {ticks : UInt64}
    {elapsed : Duration} :
    toDuration ticks ≤ elapsed ↔ ticks ≤ ofDuration elapsed := by
  have word := ticks.toNat_lt
  rw [Duration.le_iff_nanoseconds_le, nanoseconds_toDuration, UInt64.le_iff_toNat_le,
    toNat_ofDuration, Nat.le_min, Nat.le_div_iff_mul_le (by decide), Nat.mul_comm]
  simp only [UInt64.size]
  omega

/-- Ticks that become a duration are the ticks of this duration. -/
theorem ofDuration_toDuration (ticks : UInt64) :
    ofDuration (toDuration ticks) = ticks := by
  have word := ticks.toNat_lt
  rw [← UInt64.toNat_inj, toNat_ofDuration, nanoseconds_toDuration,
    Nat.mul_div_cancel_left _ (by decide)]
  simp only [UInt64.size]
  omega

/-- Rounding down does not change the order of durations. -/
theorem ofDuration_le
    {shorter longer : Duration}
    (ordered : shorter ≤ longer) :
    ofDuration shorter ≤ ofDuration longer := by
  have within := toDuration_le_iff.mpr (UInt64.le_refl (ofDuration shorter))
  rw [← toDuration_le_iff]
  rw [Duration.le_iff_nanoseconds_le] at ordered within ⊢
  exact Nat.le_trans within ordered

/-- More ticks are a longer duration. -/
theorem toDuration_le_toDuration
    {fewer more : UInt64}
    (ordered : fewer ≤ more) :
    toDuration fewer ≤ toDuration more := by
  rw [toDuration_le_iff, ofDuration_toDuration]
  exact ordered

/-- Rounding takes less than a tick away from a duration whose ticks a word can count. -/
theorem toDuration_ofDuration
    {elapsed : Duration}
    (counted : elapsed.nanoseconds < 100 * UInt64.size) :
    toDuration (ofDuration elapsed) ≤ elapsed ∧
      elapsed.nanoseconds < (toDuration (ofDuration elapsed)).nanoseconds + 100 := by
  refine ⟨toDuration_le_iff.mpr (UInt64.le_refl _), ?_⟩
  rw [nanoseconds_toDuration, toNat_ofDuration]
  simp only [UInt64.size] at *
  omega

/-- A duration with more ticks than a word can count has the greatest count. -/
theorem ofDuration_of_uncounted
    {elapsed : Duration}
    (uncounted : 100 * UInt64.size ≤ elapsed.nanoseconds) :
    (ofDuration elapsed).toNat = UInt64.size - 1 := by
  rw [toNat_ofDuration]
  simp only [UInt64.size] at *
  omega

end Tick

namespace Recorder

/-- A later packet has at least as many ticks. -/
theorem ticks_entryOf_le
    (started : Instant)
    {earlier later : Packet}
    (ordered : earlier.timestamp.nanoseconds ≤ later.timestamp.nanoseconds) :
    (entryOf started earlier).ticks ≤ (entryOf started later).ticks := by
  apply Tick.ofDuration_le
  rw [Duration.le_iff_nanoseconds_le, Instant.since, Instant.since,
    Duration.nanoseconds_ofNanoseconds, Duration.nanoseconds_ofNanoseconds]
  omega

/-- Packets that do not go back in time have entries that do not. -/
theorem ticks_entriesOf_ordered
    (started : Instant)
    {packets : List Packet}
    (ordered : packets.Pairwise fun earlier later =>
      earlier.timestamp.nanoseconds ≤ later.timestamp.nanoseconds) :
    (entriesOf started packets).Pairwise fun earlier later => earlier.ticks ≤ later.ticks :=
  List.Pairwise.map _ (fun _ _ => ticks_entryOf_le started) (ordered.filter isRecordable)

end Recorder

namespace Tick

/-- How ticks and durations are converted into each other. -/
structure RoundsDown : Prop where
  /-- The two conversions form a Galois connection. -/
  adjoint : ∀ (ticks : UInt64) (elapsed : Duration),
    toDuration ticks ≤ elapsed ↔ ticks ≤ ofDuration elapsed
  /-- On the way from ticks nothing is cut off, neither by the narrower word nor by the product. -/
  exact : ∀ ticks : UInt64,
    (ticks % perSecond).toUInt32.toNat = ticks.toNat % perSecond.toNat ∧
    ((ticks % perSecond).toUInt32 * nanoseconds).toNat =
      (ticks % perSecond).toUInt32.toNat * nanoseconds.toNat ∧
    (toDuration ticks).nanoseconds = ticks.toNat * nanoseconds.toNat
  /-- On the way to ticks every number fits into two words of 64 bits. -/
  wide : ∀ elapsed : Duration,
    1000000000 * elapsed.seconds.toNat < UInt64.size * UInt64.size ∧
      elapsed.nanoseconds < UInt64.size * UInt64.size
  subsecond : ∀ ticks : UInt64, (toDuration ticks).subsecond.toNat < 1000000000
  lossless : ∀ ticks : UInt64, ofDuration (toDuration ticks) = ticks
  durationsOrdered : ∀ fewer more : UInt64, fewer ≤ more → toDuration fewer ≤ toDuration more
  ticksOrdered : ∀ shorter longer : Duration,
    shorter ≤ longer → ofDuration shorter ≤ ofDuration longer
  /-- Rounding takes less than a tick away, as long as a word can count the ticks. -/
  close : ∀ elapsed : Duration,
    elapsed.nanoseconds < UInt64.size * nanoseconds.toNat →
      toDuration (ofDuration elapsed) ≤ elapsed ∧
      elapsed.nanoseconds < (toDuration (ofDuration elapsed)).nanoseconds + nanoseconds.toNat
  saturated : ∀ elapsed : Duration,
    UInt64.size * nanoseconds.toNat ≤ elapsed.nanoseconds →
      (ofDuration elapsed).toNat = UInt64.size - 1
  /-- Packets that do not go back in time are recorded as entries that do not. -/
  recorded : ∀ {ω : Type} (sink : Sink ω) (stage : RecordingStage ω) (packets : List Packet),
    ¬ (Recorder.handler sink).Faults stage packets →
    packets.Pairwise (fun earlier later =>
      earlier.timestamp.nanoseconds ≤ later.timestamp.nanoseconds) →
    ∃ entries : List RecordedEntry,
      entries =
        (packets.filter Recorder.isRecordable).map (Recorder.entryOf stage.started) ∧
      ((Recorder.handler sink).handleAll stage packets).output.written =
        stage.output.written ++ entries.flatMap RecordedEntry.encode ∧
      entries.Pairwise fun earlier later => earlier.ticks ≤ later.ticks

/-- Ticks and durations are converted by rounding down to the nearest tick. -/
theorem rounds_down : RoundsDown where
  adjoint := fun _ _ => toDuration_le_iff
  exact := by
    intro ticks
    have rest := toNat_ticks_below_second ticks
    refine ⟨rest, ?_, ?_⟩
    · exact (toNat_subsecond_toDuration ticks).trans (by rw [rest, Nat.mul_comm]; rfl)
    · exact (nanoseconds_toDuration ticks).trans (Nat.mul_comm 100 ticks.toNat)
  wide := by
    intro elapsed
    have bound := elapsed.nanoseconds_lt_limit
    simp only [Duration.limit, UInt64.size] at bound ⊢
    have part : 1000000000 * elapsed.seconds.toNat ≤ elapsed.nanoseconds := Nat.le_add_right _ _
    omega
  subsecond := by
    intro ticks
    rw [toNat_subsecond_toDuration]
    omega
  lossless := ofDuration_toDuration
  durationsOrdered := fun _ _ => toDuration_le_toDuration
  ticksOrdered := fun _ _ => ofDuration_le
  close := by
    intro elapsed counted
    rw [Nat.mul_comm] at counted
    exact toDuration_ofDuration counted
  saturated := by
    intro elapsed uncounted
    rw [Nat.mul_comm] at uncounted
    exact ofDuration_of_uncounted uncounted
  recorded := by
    intro ω sink stage packets faultless ordered
    exact ⟨_, rfl, (Recorder.records_of_not_faults faultless).written,
      Recorder.ticks_entriesOf_ordered stage.started ordered⟩

end Tick

end DroneSession
