import DroneSession.Proofs.LittleEndian
import DroneSession.Recording.Reader

namespace DroneSession

/-!
# Reading back what was written

A source gives a reader exactly the bytes that it asks for, however its reads are served, as far as
it reaches; behind them it comes to its end or fails for good.  So a reader takes the encoding of
one entry from the front of its source and finds this entry in it, and the encodings of several
entries read as these entries and then as the end.
-/

/-- A read of something delivers at least one byte and no more than were asked for. -/
theorem Delivery.allows_bounds
    {requested : Nat}
    (delivery : Delivery)
    (positive : requested ≠ 0) :
    delivery.allows requested ≠ 0 ∧ delivery.allows requested ≤ requested := by
  unfold allows
  cases delivery.further with
  | none => exact ⟨positive, Nat.le_refl requested⟩
  | some further =>
      dsimp only
      omega

namespace Source

/-- A source has some bytes ahead of it, and behind them its end or a failure for good. -/
def Feeds
    (source : Source)
    (ahead : Bytes) :
    Option StreamFault → Prop
  | none => source.rest = ahead ∧ source.broken = none
  | some fault =>
      ahead <+: source.rest ∧ source.broken = some (source.position + ahead.length, fault)

/-- What one read of a source does to what lies ahead. -/
def Serves
    (source : Source)
    (ahead : Bytes)
    (ending : Option StreamFault)
    (requested : Nat)
    (next : Source) :
    ReadAnswer → Prop
  | .interrupted => next.Feeds ahead ending ∧ next.position = source.position
  | .bytes bytes =>
      ∃ others, ahead = bytes ++ others ∧
        next.Feeds others ending ∧
        next.position = source.position + bytes.length ∧
        bytes.length ≤ requested ∧
        (bytes = [] → ahead = [] ∧ ending = none)
  | .failed fault =>
      next.Feeds ahead ending ∧ next.position = source.position ∧
        ahead = [] ∧ ending = some fault

/-- Handing out some bytes moves them from what lies ahead to what was read. -/
theorem Feeds.deliver
    {source : Source}
    {ahead : Bytes}
    {ending : Option StreamFault}
    {count : Nat}
    (feeds : source.Feeds ahead ending)
    (within : ending = none ∨ count ≤ ahead.length) :
    (source.deliver count).2 = .bytes (ahead.take count) ∧
      (source.deliver count).1.Feeds (ahead.drop count) ending ∧
      (source.deliver count).1.position = source.position + (ahead.take count).length := by
  cases ending with
  | none =>
      obtain ⟨rfl, unbroken⟩ := feeds
      exact ⟨rfl, ⟨rfl, unbroken⟩, rfl⟩
  | some fault =>
      obtain ⟨⟨later, parts⟩, broken⟩ := feeds
      have inside : count ≤ ahead.length := within.resolve_left (by simp)
      have taken : source.rest.take count = ahead.take count := by
        rw [← parts, List.take_append_of_le_length inside]
      have left : source.rest.drop count = ahead.drop count ++ later := by
        rw [← parts, List.drop_append_of_le_length inside]
      have limit : source.position + ahead.length =
          source.position + (source.rest.take count).length + (ahead.drop count).length := by
        rw [taken, List.length_take, List.length_drop]
        omega
      exact ⟨congrArg ReadAnswer.bytes taken,
        ⟨⟨later, left.symm⟩, broken.trans (congrArg (fun place => some (place, fault)) limit)⟩,
        congrArg (fun bytes : Bytes => source.position + bytes.length) taken⟩

/-- A source that delivers bytes has the others ahead of it. -/
theorem Feeds.serves_deliver
    {source : Source}
    {ahead : Bytes}
    {ending : Option StreamFault}
    {requested count : Nat}
    (feeds : source.Feeds ahead ending)
    (positive : count ≠ 0)
    (allowed : count ≤ requested)
    (within : ending = none ∨ (count ≤ ahead.length)) :
    source.Serves ahead ending requested (source.deliver count).1 (source.deliver count).2 := by
  obtain ⟨answer, feedsNext, position⟩ := feeds.deliver within
  rw [answer]
  refine ⟨ahead.drop count, (List.take_append_drop count ahead).symm, feedsNext, position,
    Nat.le_trans (List.length_take_le count ahead) allowed, ?_⟩
  intro nothing
  have exhausted : ahead = [] := (List.take_eq_nil_iff.mp nothing).resolve_left positive
  refine ⟨exhausted, within.resolve_right ?_⟩
  rw [exhausted, List.length_nil, Nat.le_zero]
  exact positive

/-- A read hands out bytes that lie ahead, and none only where the source ends. -/
theorem Feeds.read
    {source : Source}
    {ahead : Bytes}
    {ending : Option StreamFault}
    {requested : Nat}
    (feeds : source.Feeds ahead ending)
    (positive : requested ≠ 0) :
    source.Serves ahead ending requested (source.read requested).1 (source.read requested).2 := by
  unfold Source.read
  cases source.waiting with
  | succ waiting => exact ⟨feeds, rfl⟩
  | zero =>
      obtain ⟨least, most⟩ := (source.schedule source.turn).allows_bounds positive
      cases ending with
      | none =>
          simp only [feeds.2]
          exact feeds.serves_deliver least most (.inl rfl)
      | some fault =>
          simp only [feeds.2]
          by_cases exhausted : source.position + ahead.length ≤ source.position
          · rw [if_pos exhausted]
            have empty : ahead = [] := List.length_eq_zero_iff.mp (by omega)
            exact ⟨feeds, rfl, empty, rfl⟩
          · rw [if_neg exhausted]
            refine feeds.serves_deliver ?_ ?_ (.inr ?_) <;> omega

/-- What filling from a source has collected, and what it leaves in the source. -/
structure Draws
    (source : Source)
    (ahead : Bytes)
    (ending : Option StreamFault)
    (needed : Nat)
    (filled : Filled) :
    Prop where
  bytes : filled.bytes = ahead.take needed
  /-- Filling fails only where the source does, with less than was asked for. -/
  fault : filled.fault = if ahead.length < needed then ending else none
  feeds : filled.source.Feeds (ahead.drop needed) ending
  position : filled.source.position = source.position + filled.bytes.length

/-- Filling collects what was asked for, as far as the source reaches, however it is served. -/
theorem Feeds.fill
    {source : Source}
    {ahead : Bytes}
    {ending : Option StreamFault}
    (feeds : source.Feeds ahead ending)
    (needed : Nat) :
    source.Draws ahead ending needed (source.fill needed) := by
  -- The recursion follows the reads; each leaves a source that has the rest ahead of it.
  revert ahead
  fun_induction Source.fill source needed with
  | case1 source =>
      intro ahead feeds
      exact ⟨rfl, rfl, feeds, rfl⟩
  | case2 source needed positive next answered inductionHypothesis =>
      intro ahead feeds
      have serves := feeds.read positive
      rw [answered] at serves
      obtain ⟨feedsNext, same⟩ := serves
      obtain ⟨bytes, fault, feedsLast, position⟩ := inductionHypothesis feedsNext
      rw [same] at position
      exact ⟨bytes, fault, feedsLast, position⟩
  | case3 source needed positive next fault answered =>
      intro ahead feeds
      have serves := feeds.read positive
      rw [answered] at serves
      obtain ⟨feedsNext, same, rfl, rfl⟩ := serves
      refine ⟨List.take_nil.symm, ?_, ?_, same⟩
      · rw [List.length_nil, if_pos (Nat.pos_of_ne_zero positive)]
      · rw [List.drop_nil]
        exact feedsNext
  | case4 source needed positive next answered =>
      intro ahead feeds
      have serves := feeds.read positive
      rw [answered] at serves
      obtain ⟨others, parts, feedsNext, position, -, nothing⟩ := serves
      obtain ⟨rfl, rfl⟩ := nothing rfl
      obtain rfl : [] = others := parts
      refine ⟨List.take_nil.symm, (ite_self _).symm, ?_, position⟩
      rw [List.drop_nil]
      exact feedsNext
  | case5 source needed positive next byte bytes answered filled =>
      rename_i inductionHypothesis
      intro ahead feeds
      have serves := feeds.read positive
      rw [answered] at serves
      obtain ⟨others, rfl, feedsNext, same, within, -⟩ := serves
      obtain ⟨taken, fault, feedsLast, position⟩ := inductionHypothesis feedsNext
      rw [List.length_cons] at within
      have count : needed = (byte :: bytes).length + (needed - (bytes.length + 1)) := by
        rw [List.length_cons]
        omega
      have missing : (byte :: bytes ++ others).length < needed ↔
          others.length < needed - (bytes.length + 1) := by
        rw [List.length_append, List.length_cons]
        omega
      refine ⟨?_, ?_, ?_, ?_⟩
      · rw [count, List.take_length_add_append]
        exact congrArg (fun more => byte :: (bytes ++ more)) taken
      · simp only [missing]
        exact fault
      · rw [count, List.drop_length_add_append]
        exact feedsLast
      · have total : (byte :: (bytes ++ filled.bytes)).length =
            (byte :: bytes).length + filled.bytes.length :=
          @List.length_append _ (byte :: bytes) filled.bytes
        rw [total, ← Nat.add_assoc, ← same]
        exact position

/-- What filling from a source that never breaks has collected, and what it leaves in the source. -/
structure Collects
    (source : Source)
    (needed : Nat)
    (filled : Filled) :
    Prop where
  bytes : filled.bytes = source.rest.take needed
  fault : filled.fault = none
  rest : filled.source.rest = source.rest.drop needed
  unbroken : filled.source.broken = none

/-- Filling from an unbroken source collects what was asked for, as far as the source reaches. -/
theorem fill_of_unbroken
    {source : Source}
    (unbroken : source.broken = none)
    (needed : Nat) :
    source.Collects needed (source.fill needed) := by
  have feeds : source.Feeds source.rest none := ⟨rfl, unbroken⟩
  obtain ⟨bytes, fault, ⟨rest, unbrokenLast⟩, -⟩ := feeds.fill needed
  exact ⟨bytes, fault.trans (ite_self none), rest, unbrokenLast⟩

/-- What one read leaves behind the bytes that it hands out. -/
theorem read_parts
    (source : Source)
    (requested : Nat) :
    match source.read requested with
    | (next, .bytes bytes) => bytes ++ next.rest = source.rest
    | (next, _) => next.rest = source.rest := by
  unfold read
  cases source.waiting with
  | succ waiting => rfl
  | zero =>
      cases source.broken with
      | none => exact List.take_append_drop _ source.rest
      | some limit =>
          dsimp only
          by_cases failed : limit.1 ≤ source.position
          · rw [if_pos failed]
          · rw [if_neg failed]
            exact List.take_append_drop _ source.rest

/-- Whatever a source does, filling takes bytes from the front and leaves the others. -/
theorem fill_parts
    (source : Source)
    (needed : Nat) :
    (source.fill needed).bytes ++ (source.fill needed).source.rest = source.rest := by
  fun_induction fill source needed with
  | case1 source => rfl
  | case2 source needed positive next answered inductionHypothesis =>
      have parts := source.read_parts needed
      rw [answered] at parts
      exact inductionHypothesis.trans parts
  | case3 source needed positive next fault answered =>
      have parts := source.read_parts needed
      rw [answered] at parts
      exact parts
  | case4 source needed positive next answered =>
      have parts := source.read_parts needed
      rw [answered] at parts
      exact parts
  | case5 source needed positive next byte bytes answered filled inductionHypothesis =>
      have parts := source.read_parts needed
      rw [answered] at parts
      rw [← parts, ← inductionHypothesis]
      exact congrArg (byte :: ·) (List.append_assoc _ _ _)

theorem length_fill_le
    (source : Source)
    (needed : Nat) :
    (source.fill needed).source.rest.length ≤ source.rest.length := by
  rw [← source.fill_parts needed, List.length_append]
  exact Nat.le_add_left _ _

end Source

namespace RecordedEntry

theorem length_header (entry : RecordedEntry) :
    entry.header.length = headerSize := by
  simp only [header, Bytes.ofWord64, List.length_cons, List.length_append, Bytes.length_encode,
    headerSize]

/-- The tag, the ticks and the length stand in a header where a reader looks for them. -/
theorem header_fields
    {entry : RecordedEntry}
    (writable : entry.isWritable = true) :
    UInt8.ofNat (entry.header.field 0 1) = entry.kind.tag ∧
      entry.header.word64 1 = entry.ticks ∧
      entry.header.field 9 4 = entry.payload.length := by
  have bounded : entry.payload.length ≤ largestPayload := by
    simpa only [isWritable, decide_eq_true_eq] using writable
  have lengthFits : entry.payload.length < 256 ^ 4 :=
    Nat.lt_of_le_of_lt bounded (by decide)
  have atTicks : entry.header.drop 1 =
      Bytes.encode 8 entry.ticks.toNat ++ Bytes.encode 4 entry.payload.length := rfl
  have atLength : entry.header.drop 9 = Bytes.encode 4 entry.payload.length ++ [] := by
    rw [← List.drop_drop (i := 8) (j := 1), atTicks, List.drop_left' (Bytes.length_encode 8 _),
      List.append_nil]
  refine ⟨?_, ?_, Bytes.field_of_drop lengthFits atLength⟩
  · simp [Bytes.field, header, Bytes.valueOf]
  · rw [Bytes.word64, Bytes.field_of_drop entry.ticks.toNat_lt atTicks, UInt64.ofNat_toNat]

end RecordedEntry

/-- Every entry takes at least one byte. -/
theorem length_le_length_encodings (entries : List RecordedEntry) :
    entries.length ≤ (entries.flatMap RecordedEntry.encode).length := by
  induction entries with
  | nil => exact Nat.le_refl 0
  | cons entry entries inductionHypothesis =>
      have positive : 1 ≤ entry.encode.length := by
        rw [RecordedEntry.encode, List.length_append, entry.length_header]
        exact Nat.le_add_right_of_le (by decide)
      rw [List.flatMap_cons, List.length_append, List.length_cons]
      omega

namespace RecordingReader

/-- A reader whose source never breaks and still has some bytes. -/
structure Holds
    (reader : RecordingReader)
    (bytes : Bytes) :
    Prop where
  unbroken : reader.source.broken = none
  rest : reader.source.rest = bytes

/-- A reader of delivered bytes holds these bytes. -/
theorem holds_scheduled
    (bytes : Bytes)
    (schedule : Nat → Delivery) :
    (ofSource (.scheduled bytes schedule none)).Holds bytes :=
  ⟨rfl, rfl⟩

/-- At the end of its bytes a reader finds the end of the recording. -/
theorem Holds.next_nil
    {reader : RecordingReader}
    (holds : reader.Holds []) :
    ∃ next, reader.next = (next, .ok none) ∧ next.Holds [] := by
  obtain ⟨bytes, fault, rest, unbroken⟩ :=
    Source.fill_of_unbroken holds.unbroken RecordedEntry.headerSize
  rw [holds.rest, List.take_nil] at bytes
  rw [holds.rest, List.drop_nil] at rest
  refine ⟨{ reader with source := (reader.source.fill RecordedEntry.headerSize).source }, ?_,
    unbroken, rest⟩
  simp only [next, fault, bytes, List.isEmpty_nil, if_true]

/-- A reader takes a payload of the declared length from the front. -/
theorem Holds.readPayload
    {reader : RecordingReader}
    {payload others : Bytes}
    (holds : reader.Holds (payload ++ others))
    (kind : PacketKind)
    (ticks : UInt64) :
    ∃ next, reader.readPayload kind ticks payload.length =
        (next, .ok (some { kind := kind, ticks := ticks, payload := payload })) ∧
      next.Holds others := by
  obtain ⟨bytes, fault, rest, unbroken⟩ :=
    Source.fill_of_unbroken holds.unbroken payload.length
  rw [holds.rest, List.take_left' rfl] at bytes
  rw [holds.rest, List.drop_left' rfl] at rest
  refine ⟨{ source := (reader.source.fill payload.length).source, entries := reader.entries + 1 },
    ?_, unbroken, rest⟩
  simp only [RecordingReader.readPayload, fault, bytes, if_true]

/-- A reader takes the encoding of an entry from the front and gives this entry. -/
theorem Holds.next_encode
    {reader : RecordingReader}
    {entry : RecordedEntry}
    {others : Bytes}
    (writable : entry.isWritable = true)
    (holds : reader.Holds (entry.encode ++ others)) :
    ∃ next, reader.next = (next, .ok (some entry)) ∧ next.Holds others := by
  obtain ⟨bytes, fault, rest, unbroken⟩ :=
    Source.fill_of_unbroken holds.unbroken RecordedEntry.headerSize
  rw [holds.rest, RecordedEntry.encode, List.append_assoc] at bytes rest
  rw [List.take_left' entry.length_header] at bytes
  rw [List.drop_left' entry.length_header] at rest
  obtain ⟨tag, ticks, length⟩ := RecordedEntry.header_fields writable
  have bounded : ¬ RecordedEntry.largestPayload < entry.payload.length := by
    simpa only [RecordedEntry.isWritable, decide_eq_true_eq, Nat.not_lt] using writable
  have whole : ¬ entry.header.length < RecordedEntry.headerSize := by
    rw [entry.length_header]
    exact Nat.lt_irrefl _
  have nonempty : entry.header.isEmpty = false := rfl
  let behind : RecordingReader :=
    { reader with source := (reader.source.fill RecordedEntry.headerSize).source }
  have holdsBehind : behind.Holds (entry.payload ++ others) := ⟨unbroken, rest⟩
  obtain ⟨next, read, holdsNext⟩ := holdsBehind.readPayload entry.kind entry.ticks
  refine ⟨next, ?_, holdsNext⟩
  rw [← read]
  simp only [RecordingReader.next, fault, bytes, nonempty, Bool.false_eq_true, if_false, whole,
    tag, PacketKind.ofTag?_tag, length, bounded, ticks, behind]

/-- A reader over the encodings of some entries gives these entries and then the end, for good. -/
theorem Holds.nextMany
    {reader : RecordingReader}
    {entries : List RecordedEntry}
    (writable : ∀ entry ∈ entries, entry.isWritable = true)
    (holds : reader.Holds (entries.flatMap RecordedEntry.encode))
    (count : Nat) :
    (reader.nextMany (entries.length + count)).2 =
      entries.map (fun entry => .ok (some entry)) ++ List.replicate count (.ok none) := by
  induction entries generalizing reader with
  | nil =>
      rw [List.length_nil, Nat.zero_add, List.map_nil, List.nil_append]
      induction count generalizing reader with
      | zero => rfl
      | succ count inductionHypothesis =>
          obtain ⟨next, read, holdsNext⟩ := holds.next_nil
          simp only [RecordingReader.nextMany, read, inductionHypothesis holdsNext,
            List.replicate_succ]
  | cons entry entries inductionHypothesis =>
      obtain ⟨next, read, holdsNext⟩ := holds.next_encode (writable entry List.mem_cons_self)
      have writableRest : ∀ other ∈ entries, other.isWritable = true := by
        intro other member
        exact writable other (List.mem_cons_of_mem entry member)
      have count_eq : (entry :: entries).length + count = entries.length + count + 1 := by
        rw [List.length_cons]
        omega
      rw [count_eq]
      simp only [RecordingReader.nextMany, read, inductionHypothesis writableRest holdsNext,
        List.map_cons, List.cons_append]

end RecordingReader

end DroneSession
