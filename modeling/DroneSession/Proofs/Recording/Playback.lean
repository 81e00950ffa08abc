import DroneSession.Proofs.Recording.Reader
import DroneSession.Recording.Playback

namespace DroneSession

/-!
# A playback that reaches its end

Each entry takes a playback two steps: it is read, and it is offered under the next number of its
stream.  So the numbers of either stream count from zero, and a playback that nothing holds back
offers every entry in order and finishes.
-/

/-- The numbers that the packets of one stream carry. -/
def numbersOf
    (kind : PacketKind)
    (packets : List Packet) :
    List UInt64 :=
  (packets.filter (fun packet => packet.kind = kind)).map Packet.sequence

/-- The packets of one stream are numbered from zero, in their order and without gaps. -/
def Consecutive
    (kind : PacketKind)
    (packets : List Packet) :
    Prop :=
  numbersOf kind packets = (List.range (numbersOf kind packets).length).map UInt64.ofNat

namespace Sequencers

/-- The numbering of one stream. -/
def ofKind
    (sequencers : Sequencers) :
    PacketKind → Sequencer
  | .navigation => sequencers.navigation
  | .video => sequencers.video

/-- Numberings that go on behind some packets. -/
structure Follows
    (sequencers : Sequencers)
    (packets : List Packet) :
    Prop where
  kinds : ∀ kind, (sequencers.ofKind kind).kind = kind
  issued : ∀ kind,
    (sequencers.ofKind kind).issued = UInt64.ofNat (numbersOf kind packets).length
  consecutive : ∀ kind, Consecutive kind packets

/-- Before the first packet both streams are numbered from zero. -/
theorem follows_start : Sequencers.start.Follows [] where
  kinds := by
    intro kind
    cases kind <;> rfl
  issued := by
    intro kind
    cases kind <;> rfl
  consecutive := fun _ => rfl

theorem numbersOf_concat
    (kind : PacketKind)
    (packets : List Packet)
    (packet : Packet) :
    numbersOf kind (packets ++ [packet]) =
      if packet.kind = kind then
        numbersOf kind packets ++ [packet.sequence]
      else
        numbersOf kind packets := by
  unfold numbersOf
  by_cases same : packet.kind = kind
  · simp [same]
  · simp [same]

/-- A packet with the next number of its stream leaves all numbers consecutive. -/
theorem consecutive_concat
    {packets : List Packet}
    {packet : Packet}
    {kind : PacketKind}
    (consecutive : Consecutive kind packets)
    (numbered : packet.kind = kind →
      packet.sequence = UInt64.ofNat (numbersOf kind packets).length) :
    Consecutive kind (packets ++ [packet]) := by
  unfold Consecutive at *
  rw [numbersOf_concat]
  by_cases same : packet.kind = kind
  · rw [if_pos same, List.length_append, List.length_singleton, List.range_succ, List.map_append,
      ← consecutive, numbered same, List.map_singleton]
  · rw [if_neg same]
    exact consecutive

/-- A packet is stamped with the next number of its stream. -/
theorem stamp_packet
    (sequencers : Sequencers)
    (kind : PacketKind)
    (arrival : Instant)
    (payload : Bytes) :
    (sequencers.stamp kind arrival payload).1 =
      { kind := (sequencers.ofKind kind).kind
        sequence := (sequencers.ofKind kind).issued
        timestamp := arrival
        payload := payload } := by
  cases kind <;> rfl

/-- Stamping a packet counts its stream and leaves the other alone. -/
theorem ofKind_stamp
    (sequencers : Sequencers)
    (kind other : PacketKind)
    (arrival : Instant)
    (payload : Bytes) :
    (sequencers.stamp kind arrival payload).2.ofKind other =
      if kind = other then
        { sequencers.ofKind other with issued := (sequencers.ofKind other).issued + 1 }
      else
        sequencers.ofKind other := by
  cases kind <;> cases other <;> rfl

/-- A stamped packet keeps its stream and its payload, and the numberings go on behind it. -/
theorem Follows.stamp
    {sequencers : Sequencers}
    {packets : List Packet}
    (follows : sequencers.Follows packets)
    (kind : PacketKind)
    (arrival : Instant)
    (payload : Bytes) :
    (sequencers.stamp kind arrival payload).1.kind = kind ∧
      (sequencers.stamp kind arrival payload).1.payload = payload ∧
      (sequencers.stamp kind arrival payload).2.Follows
        (packets ++ [(sequencers.stamp kind arrival payload).1]) := by
  have stamped := sequencers.stamp_packet kind arrival payload
  rw [follows.kinds kind] at stamped
  refine ⟨by rw [stamped], by rw [stamped], ?_, ?_, ?_⟩
  · intro other
    rw [ofKind_stamp]
    by_cases same : kind = other
    · rw [if_pos same]
      exact follows.kinds other
    · rw [if_neg same]
      exact follows.kinds other
  · intro other
    rw [ofKind_stamp, numbersOf_concat, stamped]
    by_cases same : kind = other
    · rw [if_pos same, if_pos same, List.length_append, List.length_singleton, UInt64.ofNat_add,
        ← follows.issued other]
      rfl
    · rw [if_neg same, if_neg same]
      exact follows.issued other
  · intro other
    refine consecutive_concat (follows.consecutive other) ?_
    rw [stamped]
    rintro rfl
    exact follows.issued kind

end Sequencers

namespace Playback

/-- What a playback has left to do: entries that it has not read. -/
structure Reads
    (playback : Playback)
    (entries : List RecordedEntry) :
    Prop where
  playing : playback.state = .playing
  idle : playback.held = none
  holds : playback.reader.Holds (entries.flatMap RecordedEntry.encode)
  writable : ∀ entry ∈ entries, entry.isWritable = true
  follows : playback.sequencers.Follows playback.offered

/-- A playback that will be able to time what it has left to do. -/
structure Awaits
    (playback : Playback)
    (horizon : Duration)
    (entries : List RecordedEntry) :
    Prop extends playback.Reads entries where
  timely : ∀ entry ∈ entries, ∃ delay,
    delay? playback.rate playback.started entry.offset = some delay ∧
    delay.nanoseconds < horizon.nanoseconds

/-- What an entry and a packet that was made from it have in common. -/
def contentOf (packet : Packet) : PacketKind × Bytes :=
  (packet.kind, packet.payload)

end Playback

/-- The stream and the payload of an entry. -/
def RecordedEntry.content (entry : RecordedEntry) : PacketKind × Bytes :=
  (entry.kind, entry.payload)

namespace Playback

/-- Releasing an entry offers a packet that is made from it, under the next number of its stream. -/
theorem exists_release
    {playback : Playback}
    (follows : playback.sequencers.Follows playback.offered)
    (entry : RecordedEntry)
    (delay : Duration) :
    ∃ packet sequencers, contentOf packet = entry.content ∧
      sequencers.Follows (playback.offered ++ [packet]) ∧
      playback.release ⟨entry, delay⟩ =
        { playback with
          sequencers := sequencers
          held := none
          offered := playback.offered ++ [packet] } := by
  obtain ⟨sameKind, samePayload, followsNext⟩ := follows.stamp entry.kind
    ⟨playback.started.nanoseconds + delay.nanoseconds⟩ entry.payload
  refine ⟨_, _, ?_, followsNext, rfl⟩
  rw [contentOf, sameKind, samePayload, RecordedEntry.content]

/-- A playback that starts has all entries of its recording to read. -/
theorem reads_start
    {entries : List RecordedEntry}
    (writable : ∀ entry ∈ entries, entry.isWritable = true)
    (rate : Float)
    (started : Instant)
    (schedule : Nat → Delivery) :
    (start rate started
      (.ofSource (.scheduled (entries.flatMap RecordedEntry.encode) schedule none))).Reads
        entries :=
  ⟨rfl, rfl, RecordingReader.holds_scheduled _ schedule, writable, Sequencers.follows_start⟩

/-- A playback that has no entry in hand waits for nothing. -/
theorem Reads.free
    {playback : Playback}
    {entries : List RecordedEntry}
    (reads : playback.Reads entries)
    (horizon : Duration) :
    playback.waitsFor horizon = false := by
  simp only [waitsFor, reads.idle]

/-- A playback that has no entry in hand reads one. -/
theorem Reads.advance_eq_load
    {playback : Playback}
    {entries : List RecordedEntry}
    (reads : playback.Reads entries) :
    playback.advance = playback.load := by
  unfold advance
  rw [reads.playing, reads.idle]

/-- At the end of the recording a playback finishes and tells how many entries it has offered. -/
theorem Reads.advance_nil
    {playback : Playback}
    (reads : playback.Reads []) :
    playback.advance.state = .finished ∧
      playback.advance.offered = playback.offered ∧
      playback.advance.notifications =
        playback.notifications ++ [.playbackFinished playback.offered.length] := by
  obtain ⟨next, read, -⟩ := reads.holds.next_nil
  rw [reads.advance_eq_load, load, read]
  exact ⟨rfl, rfl, rfl⟩

/-- A playback fails at an entry that no clock can time. -/
theorem Reads.advance_of_untimed
    {playback : Playback}
    {entry : RecordedEntry}
    {entries : List RecordedEntry}
    (reads : playback.Reads (entry :: entries))
    (untimed : delay? playback.rate playback.started entry.offset = none) :
    playback.advance.state = .failed := by
  have holds := reads.holds
  rw [List.flatMap_cons] at holds
  obtain ⟨next, read, -⟩ := holds.next_encode (reads.writable entry List.mem_cons_self)
  rw [reads.advance_eq_load, load, read]
  simp only [untimed]
  rfl

/--
In two steps a playback reads an entry that it can time and offers it, and the others are left.
-/
theorem Reads.advance_of_timed
    {playback : Playback}
    {entry : RecordedEntry}
    {entries : List RecordedEntry}
    (reads : playback.Reads (entry :: entries))
    {delay : Duration}
    (timed : delay? playback.rate playback.started entry.offset = some delay) :
    playback.advance.state = .playing ∧
      playback.advance.held = some ⟨entry, delay⟩ ∧
      ∃ packet, contentOf packet = entry.content ∧
        playback.advance.advance.Reads entries ∧
        playback.advance.advance.offered = playback.offered ++ [packet] ∧
        playback.advance.advance.notifications = playback.notifications ∧
        playback.advance.advance.rate = playback.rate ∧
        playback.advance.advance.started = playback.started := by
  have holds := reads.holds
  rw [List.flatMap_cons] at holds
  obtain ⟨next, read, holdsNext⟩ := holds.next_encode (reads.writable entry List.mem_cons_self)
  let holding : Playback := { playback with reader := next, held := some ⟨entry, delay⟩ }
  have loaded : playback.advance = holding := by
    rw [reads.advance_eq_load, load, read]
    simp only [timed, holding]
  have second : holding.advance = holding.release ⟨entry, delay⟩ := by
    unfold advance
    simp only [reads.playing, holding]
  obtain ⟨packet, sequencers, content, followsNext, released⟩ :=
    @exists_release holding reads.follows entry delay
  rw [loaded, second, released]
  refine ⟨reads.playing, rfl, packet, content, ?_, rfl, rfl, rfl, rfl⟩
  refine ⟨reads.playing, rfl, holdsNext, ?_, followsNext⟩
  intro other member
  exact reads.writable other (List.mem_cons_of_mem entry member)

/-- In two steps a playback reads an entry and offers it, and awaits the others. -/
theorem Awaits.advance_cons
    {playback : Playback}
    {horizon : Duration}
    {entry : RecordedEntry}
    {entries : List RecordedEntry}
    (awaits : playback.Awaits horizon (entry :: entries)) :
    playback.advance.waitsFor horizon = false ∧
      ∃ packet, contentOf packet = entry.content ∧
        playback.advance.advance.Awaits horizon entries ∧
        playback.advance.advance.offered = playback.offered ++ [packet] ∧
        playback.advance.advance.notifications = playback.notifications := by
  obtain ⟨delay, due, early⟩ := awaits.timely entry List.mem_cons_self
  obtain ⟨-, held, packet, content, reads, offered, quiet, rate, started⟩ :=
    awaits.toReads.advance_of_timed due
  refine ⟨?_, packet, content, ⟨reads, ?_⟩, offered, quiet⟩
  · simp only [waitsFor, held, decide_eq_false_iff_not, Nat.not_le]
    exact early
  · intro other member
    rw [rate, started]
    exact awaits.timely other (List.mem_cons_of_mem entry member)

/-- A playback that does not play any more stays as it is. -/
theorem runSteps_of_not_playing
    {playback : Playback}
    (ended : playback.state ≠ .playing)
    (horizon : Duration)
    (fuel : Nat) :
    playback.runSteps horizon fuel = playback := by
  induction fuel with
  | zero => rfl
  | succ fuel inductionHypothesis =>
      have still : playback.advance = playback := by
        unfold advance
        split
        · rename_i playing idle
          exact absurd playing ended
        · rename_i held playing waiting
          exact absurd playing ended
        · rfl
      rw [runSteps, still, inductionHypothesis, ite_self]

/-- A playback that has offered every entry in order and has said so. -/
structure Completes
    (playback : Playback)
    (entries : List RecordedEntry)
    (final : Playback) :
    Prop where
  finished : final.state = .finished
  offered : ∃ packets, final.offered = playback.offered ++ packets ∧
    packets.map contentOf = entries.map RecordedEntry.content
  reported : final.notifications =
    playback.notifications ++ [.playbackFinished final.offered.length]
  consecutive : ∀ kind, Consecutive kind final.offered

/-- With two steps for each entry and one for the end, a playback completes. -/
theorem Awaits.runSteps
    {playback : Playback}
    {horizon : Duration}
    {entries : List RecordedEntry}
    (awaits : playback.Awaits horizon entries)
    {fuel : Nat}
    (enough : 2 * entries.length + 1 ≤ fuel) :
    playback.Completes entries (playback.runSteps horizon fuel) := by
  induction entries generalizing playback fuel with
  | nil =>
      obtain ⟨fuel, rfl⟩ := Nat.exists_eq_add_of_le' enough
      obtain ⟨finished, sameOffered, reported⟩ := awaits.toReads.advance_nil
      have step : playback.runSteps horizon (fuel + 1) = playback.advance := by
        rw [Playback.runSteps, awaits.free, runSteps_of_not_playing (by simp [finished])]
        rfl
      rw [List.length_nil, Nat.mul_zero, Nat.zero_add, step]
      refine ⟨finished, ⟨[], ?_, rfl⟩, ?_, ?_⟩
      · rw [sameOffered, List.append_nil]
      · rw [sameOffered]
        exact reported
      · rw [sameOffered]
        exact awaits.follows.consecutive
  | cons entry entries inductionHypothesis =>
      obtain ⟨freeHeld, packet, content, awaitsNext, offered, quiet⟩ := awaits.advance_cons
      obtain ⟨fuel, rfl⟩ : ∃ rest, fuel = rest + 2 := by
        refine ⟨fuel - 2, ?_⟩
        rw [List.length_cons] at enough
        omega
      have step : playback.runSteps horizon (fuel + 2) =
          playback.advance.advance.runSteps horizon fuel := by
        rw [Playback.runSteps, awaits.free, Playback.runSteps, freeHeld]
        rfl
      have enoughRest : 2 * entries.length + 1 ≤ fuel := by
        rw [List.length_cons] at enough
        omega
      obtain ⟨finished, ⟨packets, offeredRest, contents⟩, reported, consecutive⟩ :=
        inductionHypothesis awaitsNext enoughRest
      rw [step]
      refine ⟨finished, ⟨packet :: packets, ?_, ?_⟩, ?_, consecutive⟩
      · rw [offeredRest, offered, List.append_assoc, List.singleton_append]
      · rw [List.map_cons, List.map_cons, content, contents]
      · rw [reported, quiet]

/-- A playback that finishes has offered every entry in order. -/
theorem Reads.offered_of_finished
    {playback : Playback}
    {horizon : Duration}
    {entries : List RecordedEntry}
    (reads : playback.Reads entries)
    {fuel : Nat}
    (finished : (playback.runSteps horizon fuel).state = .finished) :
    ∃ packets, (playback.runSteps horizon fuel).offered = playback.offered ++ packets ∧
      packets.map contentOf = entries.map RecordedEntry.content := by
  induction entries generalizing playback fuel with
  | nil =>
      cases fuel with
      | zero =>
          rw [runSteps, reads.playing] at finished
          cases finished
      | succ fuel =>
          obtain ⟨ended, sameOffered, -⟩ := reads.advance_nil
          have step : playback.runSteps horizon (fuel + 1) = playback.advance := by
            rw [runSteps, reads.free, runSteps_of_not_playing (by simp [ended])]
            rfl
          refine ⟨[], ?_, rfl⟩
          rw [step, sameOffered, List.append_nil]
  | cons entry entries inductionHypothesis =>
      cases fuel with
      | zero =>
          rw [runSteps, reads.playing] at finished
          cases finished
      | succ fuel =>
          have first : playback.runSteps horizon (fuel + 1) =
              playback.advance.runSteps horizon fuel := by
            rw [runSteps, reads.free]
            rfl
          rw [first] at finished ⊢
          cases due : delay? playback.rate playback.started entry.offset with
          | none =>
              have failed := reads.advance_of_untimed due
              rw [runSteps_of_not_playing (by simp [failed]), failed] at finished
              cases finished
          | some delay =>
              obtain ⟨playing, held, packet, content, readsNext, offered, -⟩ :=
                reads.advance_of_timed due
              cases fuel with
              | zero =>
                  rw [runSteps, playing] at finished
                  cases finished
              | succ fuel =>
                  rw [runSteps] at finished ⊢
                  by_cases waits : playback.advance.waitsFor horizon
                  · rw [if_pos waits, playing] at finished
                    cases finished
                  · rw [if_neg waits] at finished ⊢
                    obtain ⟨packets, offeredRest, contents⟩ :=
                      inductionHypothesis readsNext finished
                    refine ⟨packet :: packets, ?_, ?_⟩
                    · rw [offeredRest, offered, List.append_assoc, List.singleton_append]
                    · rw [List.map_cons, List.map_cons, content, contents]

end Playback

end DroneSession
