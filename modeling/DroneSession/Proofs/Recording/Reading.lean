import DroneSession.Proofs.Recording.Format

namespace DroneSession

/-!
# What a recording reads as

A reader yields the entries in front, and then meets the end or a failure that tells why the entries
stop.  An iterator over it gives the same answers and nothing behind them.  So any bytes read as
exactly the entries that they begin with, and a recording that is cut off anywhere reads as the
entries that end before the cut.
-/

namespace RecordingReader

/-- A reader yields entries one after another, and then the end or a failure. -/
inductive Yields :
    RecordingReader → List RecordedEntry → Option ReadFault → RecordingReader → Prop where
  | ended
      {reader last : RecordingReader}
      (read : reader.next = (last, .ok none)) :
      Yields reader [] none last
  | failed
      {reader last : RecordingReader}
      {fault : ReadFault}
      (read : reader.next = (last, .error fault)) :
      Yields reader [] (some fault) last
  | entry
      {reader behind last : RecordingReader}
      {entry : RecordedEntry}
      {entries : List RecordedEntry}
      {fault : Option ReadFault}
      (read : reader.next = (behind, .ok (some entry)))
      (others : Yields behind entries fault last) :
      Yields reader (entry :: entries) fault last

/-- With enough fuel, reading on gives everything that a reader yields. -/
theorem Yields.results
    {reader last : RecordingReader}
    {entries : List RecordedEntry}
    {fault : Option ReadFault}
    (yields : reader.Yields entries fault last)
    {fuel : Nat}
    (enough : entries.length < fuel) :
    (reader.results fuel).2 = entries.map .ok ++ (fault.map .error).toList := by
  induction yields generalizing fuel with
  | ended read =>
      obtain ⟨fuel, rfl⟩ := Nat.exists_eq_add_of_le' enough
      simp [RecordingReader.results, read]
  | failed read =>
      obtain ⟨fuel, rfl⟩ := Nat.exists_eq_add_of_le' enough
      simp [RecordingReader.results, read]
  | entry read others inductionHypothesis =>
      obtain ⟨fuel, rfl⟩ : ∃ rest, fuel = rest + 1 :=
        ⟨fuel - 1, (Nat.succ_pred_eq_of_pos (Nat.zero_lt_of_lt enough)).symm⟩
      have enoughRest := Nat.lt_of_succ_lt_succ enough
      simp [RecordingReader.results, read, inductionHypothesis enoughRest]

/-- What a reader yields depends on nothing but the reader. -/
theorem Yields.unique
    {reader last otherLast : RecordingReader}
    {entries otherEntries : List RecordedEntry}
    {fault otherFault : Option ReadFault}
    (yields : reader.Yields entries fault last)
    (other : reader.Yields otherEntries otherFault otherLast) :
    otherEntries = entries ∧ otherFault = fault := by
  induction yields generalizing otherEntries with
  | ended read =>
      cases other with
      | ended readOther => exact ⟨rfl, rfl⟩
      | failed readOther => simp [read] at readOther
      | entry readOther => simp [read] at readOther
  | failed read =>
      cases other with
      | ended readOther => simp [read] at readOther
      | failed readOther =>
          rw [read] at readOther
          cases readOther
          exact ⟨rfl, rfl⟩
      | entry readOther => simp [read] at readOther
  | entry read others inductionHypothesis =>
      cases other with
      | ended readOther => simp [read] at readOther
      | failed readOther => simp [read] at readOther
      | entry readOther othersOther =>
          rw [read] at readOther
          cases readOther
          obtain ⟨rfl, rfl⟩ := inductionHypothesis othersOther
          exact ⟨rfl, rfl⟩

/-! ## The steps of a reader -/

/-- How many entries a reader has given after a read. -/
def countedAfter
    (entries : Nat) :
    Except ReadFault (Option RecordedEntry) → Nat
  | .ok (some _) => entries + 1
  | _ => entries

/-- Reading a payload counts the entry that it gives. -/
theorem entries_readPayload
    (reader : RecordingReader)
    (kind : PacketKind)
    (ticks : UInt64)
    (length : Nat) :
    (reader.readPayload kind ticks length).1.entries =
      countedAfter reader.entries (reader.readPayload kind ticks length).2 := by
  unfold readPayload
  simp only
  split
  · rfl
  · split <;> rfl

/-- A reader counts the entries that it gives. -/
theorem entries_of_next
    {reader behind : RecordingReader}
    {result : Except ReadFault (Option RecordedEntry)}
    (read : reader.next = (behind, result)) :
    behind.entries = countedAfter reader.entries result := by
  have counts : reader.next.1.entries = countedAfter reader.entries reader.next.2 := by
    unfold next
    simp only
    split
    · rfl
    · split
      · rfl
      · split
        · rfl
        · split
          · rfl
          · split
            · rfl
            · exact entries_readPayload _ _ _ _
  rwa [read] at counts

theorem length_readPayload_le
    (reader : RecordingReader)
    (kind : PacketKind)
    (ticks : UInt64)
    (length : Nat) :
    (reader.readPayload kind ticks length).1.source.rest.length ≤ reader.source.rest.length := by
  have shorter := reader.source.length_fill_le length
  unfold readPayload
  dsimp only
  split
  · exact shorter
  · split <;> exact shorter

/-- An entry takes bytes from the source, whatever the source does. -/
theorem shortens_of_next
    {reader behind : RecordingReader}
    {entry : RecordedEntry}
    (read : reader.next = (behind, .ok (some entry))) :
    behind.source.rest.length < reader.source.rest.length := by
  have parts := congrArg List.length (reader.source.fill_parts RecordedEntry.headerSize)
  rw [List.length_append] at parts
  unfold next at read
  dsimp only at read
  split at read
  · cases read
  · split at read
    · cases read
    · rename_i nonempty
      have taken : 0 < (reader.source.fill RecordedEntry.headerSize).bytes.length :=
        List.length_pos_iff.mpr (fun empty => nonempty (List.isEmpty_iff.mpr empty))
      split at read
      · cases read
      · split at read
        · cases read
        · split at read
          · cases read
          · rename_i kind known bounded
            have shorter := length_readPayload_le
              { reader with source := (reader.source.fill RecordedEntry.headerSize).source } kind
              (Bytes.word64 (reader.source.fill RecordedEntry.headerSize).bytes 1)
              (Bytes.field (reader.source.fill RecordedEntry.headerSize).bytes 9 4)
            rw [read] at shorter
            dsimp only at shorter
            omega

/-- Every reader yields some entries and then meets the end or a failure. -/
theorem exists_yields
    (reader : RecordingReader) :
    ∃ entries fault last, reader.Yields entries fault last := by
  -- The induction is on the bytes of the source, of which every entry takes some.
  induction size : reader.source.rest.length using Nat.strongRecOn generalizing reader with
  | ind count inductionHypothesis =>
      rcases read : reader.next with ⟨behind, fault | entry⟩
      · exact ⟨[], some fault, behind, .failed read⟩
      · cases entry with
        | none => exact ⟨[], none, behind, .ended read⟩
        | some entry =>
            have shorter := shortens_of_next read
            rw [size] at shorter
            obtain ⟨entries, fault, last, others⟩ :=
              inductionHypothesis behind.source.rest.length shorter behind rfl
            exact ⟨entry :: entries, fault, last, .entry read others⟩

/-- The payload that a header declares is missing if the source does not reach that far. -/
theorem Holds.readPayload_cut
    {reader : RecordingReader}
    {bytes : Bytes}
    (holds : reader.Holds bytes)
    {length : Nat}
    (cut : bytes.length < length)
    (kind : PacketKind)
    (ticks : UInt64) :
    ∃ last, reader.readPayload kind ticks length = (last, .error .payloadTruncated) := by
  obtain ⟨collected, fault, -, -⟩ := Source.fill_of_unbroken holds.unbroken length
  rw [holds.rest, List.take_of_length_le (Nat.le_of_lt cut)] at collected
  refine ⟨{ reader with source := (reader.source.fill length).source }, ?_⟩
  simp only [RecordingReader.readPayload, fault, collected, Nat.ne_of_lt cut, if_false]

/-- A reader that finds a whole header looks at its tag first and then at its length. -/
theorem Holds.next_of_header
    {reader : RecordingReader}
    {bytes : Bytes}
    (holds : reader.Holds bytes)
    (long : RecordedEntry.headerSize ≤ bytes.length) :
    ∃ behind : RecordingReader,
      behind.Holds (bytes.drop RecordedEntry.headerSize) ∧
      reader.next =
        match PacketKind.ofTag? (bytes.headD 0) with
        | none => (behind, .error (.unknownTag reader.entries (bytes.headD 0)))
        | some kind =>
            if RecordedEntry.largestPayload < Stop.declared bytes then
              (behind, .error (.payloadTooLarge reader.entries (Stop.declared bytes)))
            else
              behind.readPayload kind (bytes.word64 1) (Stop.declared bytes) := by
  obtain ⟨collected, fault, rest, unbroken⟩ :=
    Source.fill_of_unbroken holds.unbroken RecordedEntry.headerSize
  rw [holds.rest] at collected rest
  let behind : RecordingReader :=
    { reader with source := (reader.source.fill RecordedEntry.headerSize).source }
  refine ⟨behind, ⟨unbroken, rest⟩, ?_⟩
  have size : (bytes.take RecordedEntry.headerSize).length = RecordedEntry.headerSize := by
    rw [List.length_take, Nat.min_eq_left long]
  have nonempty : (bytes.take RecordedEntry.headerSize).isEmpty = false := by
    rw [← Bool.not_eq_true, List.isEmpty_iff_length_eq_zero, size]
    decide
  have tag : UInt8.ofNat (Bytes.field (bytes.take RecordedEntry.headerSize) 0 1) =
      bytes.headD 0 := by
    rw [Bytes.field_take (by decide)]
    cases bytes with
    | nil => rfl
    | cons byte others => simp [Bytes.field, Bytes.valueOf]
  have ticks : Bytes.word64 (bytes.take RecordedEntry.headerSize) 1 = bytes.word64 1 := by
    rw [Bytes.word64, Bytes.field_take (by decide), Bytes.word64]
  have length : Bytes.field (bytes.take RecordedEntry.headerSize) 9 4 = Stop.declared bytes := by
    rw [Bytes.field_take (by decide), Stop.declared]
  cases known : PacketKind.ofTag? (bytes.headD 0) <;>
    simp only [RecordingReader.next, fault, collected, nonempty, size, tag, ticks, length, known,
      Nat.lt_irrefl, Bool.false_eq_true, if_false, behind]

/-- Where the entries stop, a reader meets the end or the failure that tells why. -/
theorem Holds.yields_stop
    {reader : RecordingReader}
    {rest : Bytes}
    {stop : Stop}
    (holds : reader.Holds rest)
    (leaves : stop.Leaves rest) :
    ∃ last, reader.Yields [] (stop.fault? reader.entries rest) last ∧
      (stop = .ended → last.Holds []) := by
  cases stop with
  | ended =>
      obtain rfl : rest = [] := leaves
      obtain ⟨last, read, holdsLast⟩ := holds.next_nil
      exact ⟨last, .ended read, fun _ => holdsLast⟩
  | headerCut =>
      obtain ⟨positive, short⟩ := leaves
      obtain ⟨collected, fault, -, -⟩ :=
        Source.fill_of_unbroken holds.unbroken RecordedEntry.headerSize
      rw [holds.rest, List.take_of_length_le (Nat.le_of_lt short)] at collected
      have nonempty : rest.isEmpty = false := by
        rw [← Bool.not_eq_true, List.isEmpty_iff]
        exact List.length_pos_iff.mp positive
      let last : RecordingReader :=
        { reader with source := (reader.source.fill RecordedEntry.headerSize).source }
      have read : reader.next = (last, .error (.headerTruncated reader.entries rest.length)) := by
        simp only [next, fault, collected, nonempty, short, Bool.false_eq_true, if_false, if_true,
          last]
      exact ⟨last, .failed read, by simp⟩
  | tagUnknown =>
      obtain ⟨long, untagged⟩ := leaves
      obtain ⟨behind, -, read⟩ := holds.next_of_header long
      have nonempty : rest ≠ [] := List.ne_nil_of_length_pos (Nat.lt_of_lt_of_le (by decide) long)
      rw [Stop.hasTag_iff nonempty, ← Option.isSome_iff_exists, Option.not_isSome_iff_eq_none]
        at untagged
      rw [untagged] at read
      exact ⟨behind, .failed read, by simp⟩
  | payloadTooLarge =>
      obtain ⟨long, tagged, large⟩ := leaves
      obtain ⟨behind, -, read⟩ := holds.next_of_header long
      have nonempty : rest ≠ [] := List.ne_nil_of_length_pos (Nat.lt_of_lt_of_le (by decide) long)
      obtain ⟨kind, known⟩ := (Stop.hasTag_iff nonempty).mp tagged
      simp only [known, large, if_true] at read
      exact ⟨behind, .failed read, by simp⟩
  | payloadCut =>
      obtain ⟨long, tagged, bounded, cut⟩ := leaves
      obtain ⟨behind, holdsBehind, read⟩ := holds.next_of_header long
      have nonempty : rest ≠ [] := List.ne_nil_of_length_pos (Nat.lt_of_lt_of_le (by decide) long)
      obtain ⟨kind, known⟩ := (Stop.hasTag_iff nonempty).mp tagged
      have missing : (rest.drop RecordedEntry.headerSize).length < Stop.declared rest := by
        rw [List.length_drop]
        omega
      obtain ⟨last, cutShort⟩ := holdsBehind.readPayload_cut missing kind (rest.word64 1)
      simp only [known, Nat.not_lt.mpr bounded, if_false] at read
      exact ⟨last, .failed (read.trans cutShort), by simp⟩

/-- A reader yields the entries in front and stops where they stop. -/
theorem Holds.yields
    {reader : RecordingReader}
    {entries : List RecordedEntry}
    {rest : Bytes}
    {stop : Stop}
    (writable : ∀ entry ∈ entries, entry.isWritable = true)
    (holds : reader.Holds (entries.flatMap RecordedEntry.encode ++ rest))
    (leaves : stop.Leaves rest) :
    ∃ last, reader.Yields entries (stop.fault? (reader.entries + entries.length) rest) last ∧
      (stop = .ended → last.Holds []) := by
  induction entries generalizing reader with
  | nil => exact Holds.yields_stop holds leaves
  | cons entry entries inductionHypothesis =>
      rw [List.flatMap_cons, List.append_assoc] at holds
      obtain ⟨behind, read, holdsBehind⟩ := holds.next_encode (writable entry List.mem_cons_self)
      have writableRest : ∀ other ∈ entries, other.isWritable = true := by
        intro other member
        exact writable other (List.mem_cons_of_mem entry member)
      obtain ⟨last, yields, atEnd⟩ := inductionHypothesis writableRest holdsBehind
      rw [entries_of_next read, countedAfter, Nat.add_assoc, Nat.add_comm 1] at yields
      exact ⟨last, .entry read yields, atEnd⟩

end RecordingReader

namespace RecordingIterator

/-- The answers of an iterator that has some entries, a failure or the end, and nothing more. -/
def answersOf
    (entries : List RecordedEntry)
    (fault : Option ReadFault)
    (count : Nat) :
    List (Option (Except ReadFault RecordedEntry)) :=
  entries.map (fun entry => some (.ok entry)) ++ fault.map .error :: List.replicate count none

/-- Many answers are the first one and those behind it. -/
theorem nextMany_of_next
    {iterator behind : RecordingIterator}
    {answer : Option (Except ReadFault RecordedEntry)}
    (step : iterator.next = (behind, answer))
    (count : Nat) :
    iterator.nextMany (count + 1) =
      ((behind.nextMany count).1, answer :: (behind.nextMany count).2) := by
  rw [nextMany, step]

/-- An iterator that has nothing more behind some entries. -/
structure Exhausted
    (iterator : RecordingIterator)
    (entries : Nat) :
    Prop where
  answers : ∀ count, (iterator.nextMany count).2 = List.replicate count none
  counted : ∀ count, (iterator.nextMany count).1.reader.entries = entries

/-- Behind a failure an iterator does not read any more. -/
theorem exhausted_of_failed
    {iterator : RecordingIterator}
    (failed : iterator.failed = true) :
    iterator.Exhausted iterator.reader.entries := by
  have still : ∀ count, iterator.nextMany count = (iterator, List.replicate count none) := by
    intro count
    induction count with
    | zero => rfl
    | succ count inductionHypothesis =>
        have step : iterator.next = (iterator, none) := by
          simp only [next, failed, if_true]
        rw [nextMany_of_next step, inductionHypothesis, List.replicate_succ]
  exact ⟨fun count => by rw [still], fun count => by rw [still]⟩

/-- At the end of its bytes an iterator reads on, and finds the end again. -/
theorem exhausted_of_holds
    {reader : RecordingReader}
    (holds : reader.Holds []) :
    (ofReader reader).Exhausted reader.entries := by
  have still : ∀ count,
      ((ofReader reader).nextMany count).2 = List.replicate count none ∧
      ((ofReader reader).nextMany count).1.reader.entries = reader.entries := by
    intro count
    induction count generalizing reader with
    | zero => exact ⟨rfl, rfl⟩
    | succ count inductionHypothesis =>
        obtain ⟨last, read, holdsLast⟩ := holds.next_nil
        have step : (ofReader reader).next = (ofReader last, none) := by
          simp only [next, ofReader, read, Bool.false_eq_true, if_false]
        have counted : last.entries = reader.entries := RecordingReader.entries_of_next read
        obtain ⟨answers, entries⟩ := inductionHypothesis holdsLast
        rw [nextMany_of_next step, answers, entries, counted, List.replicate_succ]
        exact ⟨rfl, rfl⟩
  exact ⟨fun count => (still count).1, fun count => (still count).2⟩

/-- What is left to say of an iterator that has nothing more behind its next answer. -/
theorem Exhausted.answers_of_next
    {iterator behind : RecordingIterator}
    {answer : Option (Except ReadFault RecordedEntry)}
    (step : iterator.next = (behind, answer))
    (exhausted : behind.Exhausted iterator.reader.entries)
    (count : Nat) :
    (iterator.nextMany (count + 1)).2 = answer :: List.replicate count none ∧
      (iterator.nextMany count).1.reader.entries = iterator.reader.entries := by
  refine ⟨?_, ?_⟩
  · rw [nextMany_of_next step, exhausted.answers]
  · cases count with
    | zero => rfl
    | succ count => rw [nextMany_of_next step, exhausted.counted]

/-- An iterator answers with what its reader yields, and then with nothing. -/
theorem answers_of_yields
    {reader last : RecordingReader}
    {entries : List RecordedEntry}
    {fault : Option ReadFault}
    (yields : reader.Yields entries fault last)
    (atEnd : fault = none → last.Holds [])
    (count : Nat) :
    ((ofReader reader).nextMany (entries.length + 1 + count)).2 =
        answersOf entries fault count ∧
      ((ofReader reader).nextMany (entries.length + count)).1.reader.entries =
        reader.entries + entries.length := by
  induction yields with
  | @ended reader last read =>
      have step : (ofReader reader).next = (ofReader last, none) := by
        simp only [next, ofReader, read, Bool.false_eq_true, if_false]
      have counted : last.entries = reader.entries := RecordingReader.entries_of_next read
      have exhausted := exhausted_of_holds (atEnd rfl)
      rw [counted] at exhausted
      rw [List.length_nil, Nat.zero_add, Nat.zero_add, Nat.add_comm 1]
      exact exhausted.answers_of_next step count
  | @failed reader last fault read =>
      have step : (ofReader reader).next = (⟨last, true⟩, some (.error fault)) := by
        simp only [next, ofReader, read, Bool.false_eq_true, if_false]
      have counted : last.entries = reader.entries := RecordingReader.entries_of_next read
      have exhausted := @exhausted_of_failed ⟨last, true⟩ rfl
      dsimp only at exhausted
      rw [counted] at exhausted
      rw [List.length_nil, Nat.zero_add, Nat.zero_add, Nat.add_comm 1]
      exact exhausted.answers_of_next step count
  | @entry reader behind last entry entries fault read others inductionHypothesis =>
      have step : (ofReader reader).next = (ofReader behind, some (.ok entry)) := by
        simp only [next, ofReader, read, Bool.false_eq_true, if_false]
      have counted : behind.entries = reader.entries + 1 := RecordingReader.entries_of_next read
      obtain ⟨answers, total⟩ := inductionHypothesis atEnd
      have first : (entry :: entries).length + 1 + count = entries.length + 1 + count + 1 := by
        rw [List.length_cons]
        omega
      have second : (entry :: entries).length + count = entries.length + count + 1 := by
        rw [List.length_cons]
        omega
      rw [first, second, nextMany_of_next step, nextMany_of_next step, answers, total, counted,
        List.length_cons]
      exact ⟨rfl, by omega⟩

end RecordingIterator

/-- An iterator over bytes that are delivered by a schedule. -/
def RecordingIterator.scheduled
    (bytes : Bytes)
    (schedule : Nat → Delivery) :
    RecordingIterator :=
  ofReader (.ofSource (.scheduled bytes schedule none))

/-! ## Any bytes -/

namespace RecordingReader

/-- What bytes read as that are some entries and a rest where they stop. -/
structure ReadsAs
    (bytes : Bytes)
    (schedule : Nat → Delivery)
    (entries : List RecordedEntry)
    (rest : Bytes)
    (stop : Stop) :
    Prop where
  /-- Writing the entries again gives the bytes in front of the rest. -/
  written : (RecordedEntry.appendAll [] entries).1 ++ rest = bytes
  accepted : ∀ answer ∈ (RecordedEntry.appendAll [] entries).2, answer = .ok ()
  leaves : stop.Leaves rest
  /-- The rest is left in this way and in no other. -/
  only : ∀ other : Stop, other.Leaves rest → other = stop
  reports : stop.Reports ((stop.fault? entries.length rest).map ReadFault.toError)
  /-- However often an iterator is asked, it has the entries, the failure and nothing behind it. -/
  answers : ∀ count,
    ((RecordingIterator.scheduled bytes schedule).nextMany (entries.length + 1 + count)).2 =
      RecordingIterator.answersOf entries (stop.fault? entries.length rest) count
  counted : ∀ count,
    ((RecordingIterator.scheduled bytes schedule).nextMany
      (entries.length + count)).1.reader.entries = entries.length
  all : (ofSource (.scheduled bytes schedule none)).readAll.2 =
    entries.map .ok ++ ((stop.fault? entries.length rest).map .error).toList

/-- What a reader yields from bytes that are the encodings of some entries and a rest. -/
theorem yields_scheduled
    {entries : List RecordedEntry}
    (writable : ∀ entry ∈ entries, entry.isWritable = true)
    {rest : Bytes}
    {stop : Stop}
    (leaves : stop.Leaves rest)
    (schedule : Nat → Delivery) :
    ∃ last,
      (ofSource (.scheduled (entries.flatMap RecordedEntry.encode ++ rest) schedule none)).Yields
        entries (stop.fault? entries.length rest) last ∧
      (stop.fault? entries.length rest = none → last.Holds []) := by
  obtain ⟨last, yields, atEnd⟩ := (holds_scheduled _ schedule).yields writable leaves
  rw [ofSource, Nat.zero_add] at yields
  exact ⟨last, yields, fun faultless => atEnd (Stop.fault?_eq_none_iff.mp faultless)⟩

/-- Any bytes read as the entries that they begin with, however they are delivered. -/
theorem exists_readsAs
    (bytes : Bytes)
    (schedule : Nat → Delivery) :
    ∃ (entries : List RecordedEntry) (rest : Bytes) (stop : Stop),
      ReadsAs bytes schedule entries rest stop := by
  obtain ⟨entries, rest, stop, writable, rfl, leaves⟩ :=
    RecordedEntry.exists_entries_and_stop bytes
  obtain ⟨last, yields, atEnd⟩ := yields_scheduled writable leaves schedule
  have answers := RecordingIterator.answers_of_yields yields atEnd
  have enough : entries.length <
      (entries.flatMap RecordedEntry.encode ++ rest).length + 1 := by
    have shorter := length_le_length_encodings entries
    rw [List.length_append]
    omega
  have kept : entries.filter RecordedEntry.isWritable = entries :=
    List.filter_eq_self.mpr writable
  refine ⟨entries, rest, stop, ?_, ?_, leaves, fun _ => leaves.unique, stop.reports_fault? _ _,
    fun count => (answers count).1, ?_, yields.results enough⟩
  · rw [RecordedEntry.appendAll_eq, kept, List.nil_append]
  · rw [RecordedEntry.appendAll_eq]
    intro answer member
    obtain ⟨entry, isEntry, rfl⟩ := List.mem_map.mp member
    rw [writable entry isEntry, if_pos rfl]
  · intro count
    exact (answers count).2.trans (Nat.zero_add _)

/-! ## A recording that is cut off -/

/-- The failure of a source that ends inside an entry; it is fatal. -/
def IsTruncation (fault : ReadFault) : Prop :=
  fault.toError.isFatal = true ∧
    ∃ text, fault.toError = .sinkFailure "recording read" ⟨.unexpectedEnd, text⟩

/-- A source that ends inside an entry is reported as a truncation. -/
theorem isTruncation_of_stop
    {stop : Stop}
    (inside : stop = .headerCut ∨ stop = .payloadCut)
    (entries : Nat)
    (rest : Bytes) :
    ∃ fault, stop.fault? entries rest = some fault ∧ IsTruncation fault := by
  rcases inside with rfl | rfl
  · exact ⟨_, rfl, rfl, _, rfl⟩
  · exact ⟨_, rfl, rfl, _, rfl⟩

/--
Encodings that are cut off read as the entries that end before the cut; then comes the end if the
cut lies between entries, and otherwise a truncation.
-/
theorem exists_answers_of_cut
    {entries : List RecordedEntry}
    (writable : ∀ entry ∈ entries, entry.isWritable = true)
    {cut : Nat}
    (within : cut ≤ (entries.flatMap RecordedEntry.encode).length) :
    ∃ fault : Option ReadFault,
      (∀ schedule count,
        ((RecordingIterator.scheduled ((entries.flatMap RecordedEntry.encode).take cut)
            schedule).nextMany
          ((RecordedEntry.endingBy cut 0 entries).length + 1 + count)).2 =
        RecordingIterator.answersOf (RecordedEntry.endingBy cut 0 entries) fault count) ∧
      (cut ∈ RecordedEntry.boundaries 0 entries → fault = none) ∧
      (cut ∉ RecordedEntry.boundaries 0 entries →
        ∃ truncation, fault = some truncation ∧ IsTruncation truncation) := by
  obtain ⟨rest, stop, parts, leaves, atBoundary, inside⟩ :=
    RecordedEntry.exists_take_encodings writable 0 within
  rw [Nat.zero_add] at parts atBoundary inside
  have kept : ∀ entry ∈ RecordedEntry.endingBy cut 0 entries, entry.isWritable = true :=
    fun entry member => writable entry (RecordedEntry.endingBy_prefix.subset member)
  refine ⟨stop.fault? (RecordedEntry.endingBy cut 0 entries).length rest, ?_, ?_, ?_⟩
  · intro schedule count
    rw [parts]
    obtain ⟨last, yields, atEnd⟩ := yields_scheduled kept leaves schedule
    exact (RecordingIterator.answers_of_yields yields atEnd count).1
  · exact fun boundary => Stop.fault?_eq_none_iff.mpr (atBoundary boundary)
  · exact fun outside => isTruncation_of_stop (inside outside) _ _

/-- What a recording that some entries were appended to reads as if it is cut off. -/
structure ReadsUpTo
    (entries : List RecordedEntry)
    (cut : Nat)
    (schedule : Nat → Delivery) :
    Prop where
  /-- The entries that are too large are refused, and no others. -/
  refused :
    (RecordedEntry.appendAll [] entries).2.map (Except.mapError StreamFault.kind) =
      entries.map fun entry =>
        if RecordedEntry.largestPayload < entry.payload.length then
          .error .invalidInput
        else
          .ok ()
  /-- What was refused has left no byte behind. -/
  written : (RecordedEntry.appendAll [] entries).1 =
    (entries.filter RecordedEntry.isWritable).flatMap RecordedEntry.encode
  reading : ∃ fault : Option ReadFault,
    (∀ count,
      ((RecordingIterator.scheduled ((RecordedEntry.appendAll [] entries).1.take cut)
          schedule).nextMany
        ((RecordedEntry.endingBy cut 0 (entries.filter RecordedEntry.isWritable)).length
          + 1 + count)).2 =
      RecordingIterator.answersOf
        (RecordedEntry.endingBy cut 0 (entries.filter RecordedEntry.isWritable)) fault count) ∧
    (cut ∈ RecordedEntry.boundaries 0 (entries.filter RecordedEntry.isWritable) →
      fault = none) ∧
    (cut ∉ RecordedEntry.boundaries 0 (entries.filter RecordedEntry.isWritable) →
      ∃ truncation, fault = some truncation ∧ IsTruncation truncation)
  /-- A recording that is not cut off reads back as everything that was accepted. -/
  whole : cut = (RecordedEntry.appendAll [] entries).1.length →
    RecordedEntry.endingBy cut 0 (entries.filter RecordedEntry.isWritable) =
        entries.filter RecordedEntry.isWritable ∧
      cut ∈ RecordedEntry.boundaries 0 (entries.filter RecordedEntry.isWritable)

/-- A recording that is cut off anywhere reads as the entries that end before the cut. -/
theorem truncated_recording_reads
    (entries : List RecordedEntry)
    (schedule : Nat → Delivery)
    {cut : Nat}
    (within : cut ≤ (RecordedEntry.appendAll [] entries).1.length) :
    ReadsUpTo entries cut schedule := by
  have writable : ∀ entry ∈ entries.filter RecordedEntry.isWritable, entry.isWritable = true :=
    fun _ member => (List.mem_filter.mp member).2
  have written : (RecordedEntry.appendAll [] entries).1 =
      (entries.filter RecordedEntry.isWritable).flatMap RecordedEntry.encode := by
    rw [RecordedEntry.appendAll_eq, List.nil_append]
  refine ⟨?_, written, ?_, ?_⟩
  · rw [RecordedEntry.appendAll_eq, List.map_map]
    refine List.map_congr_left fun entry _ => ?_
    by_cases large : RecordedEntry.largestPayload < entry.payload.length
    · have refused : entry.isWritable = false := decide_eq_false (Nat.not_le.mpr large)
      simp only [Function.comp_apply, refused, large, Bool.false_eq_true, if_false, if_true]
      rfl
    · have accepted : entry.isWritable = true := decide_eq_true (Nat.le_of_not_lt large)
      simp only [Function.comp_apply, accepted, large, if_false, if_true]
      rfl
  · rw [written] at within ⊢
    obtain ⟨fault, answers, atBoundary, inside⟩ := exists_answers_of_cut writable within
    exact ⟨fault, answers schedule, atBoundary, inside⟩
  · rintro rfl
    have whole := RecordedEntry.endingBy_whole 0 (entries.filter RecordedEntry.isWritable)
    rwa [Nat.zero_add, ← written] at whole

/-- Three entries, of which the second has no payload. -/
def shortRecording : List RecordedEntry :=
  [ { kind := .navigation, ticks := 0, payload := [1, 2, 3] },
    { kind := .video, ticks := 2500000, payload := [] },
    { kind := .navigation, ticks := 10000000, payload := [9] } ]

/-- A cut behind the payload of the first entry, inside the header of the second. -/
theorem short_recording_truncated :
    20 ≤ (RecordedEntry.appendAll [] shortRecording).1.length ∧
    ∃ truncation, IsTruncation truncation ∧
      ((RecordingIterator.scheduled ((RecordedEntry.appendAll [] shortRecording).1.take 20)
          (fun _ => .whole)).nextMany 4).2 =
        [ some (.ok { kind := .navigation, ticks := 0, payload := [1, 2, 3] }),
          some (.error truncation), none, none ] := by
  have within : 20 ≤ (RecordedEntry.appendAll [] shortRecording).1.length := by
    decide
  obtain ⟨-, -, ⟨fault, answers, -, inside⟩, -⟩ :=
    truncated_recording_reads shortRecording (fun _ => .whole) within
  obtain ⟨truncation, rfl, truncates⟩ := inside (by decide)
  exact ⟨within, truncation, truncates, answers 2⟩

end RecordingReader

end DroneSession
