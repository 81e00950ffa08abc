import DroneSession.Proofs.Recording.Reading

namespace DroneSession

/-!
# Reading does not depend on the delivery

A reader gets the same results from a source that is served in any number of short and interrupted
reads as from one contiguous buffer.  From a source that fails for good at some position it gets
what a buffer with the bytes before that position gives, with the failure of the source in the place
of the end and of every truncation.  So its first results are the entries that end there at the
latest.
-/

namespace RecordingReader

/-! ## Two readers side by side -/

/--
A reader and one of a contiguous buffer that have the same bytes ahead of them and have counted the
same.  Behind these bytes the buffer ends, and the source of the first reader may fail.
-/
def Mirrors
    (reader buffered : RecordingReader)
    (ending : Option StreamFault) :
    Prop :=
  ∃ ahead, reader.source.Feeds ahead ending ∧ buffered.source.Feeds ahead none ∧
    reader.source.position = buffered.source.position ∧ reader.entries = buffered.entries

/-- What a result becomes if the source does not end where the buffer does, but fails. -/
def endingWith
    (ending : Option StreamFault)
    (result : Except ReadFault (Option RecordedEntry)) :
    Except ReadFault (Option RecordedEntry) :=
  match ending, result with
  | some fault, .ok none => .error (.source fault)
  | some fault, .error (.headerTruncated _ _) => .error (.source fault)
  | some fault, .error .payloadTruncated => .error (.source fault)
  | _, result => result

@[simp] theorem endingWith_none (result : Except ReadFault (Option RecordedEntry)) :
    endingWith none result = result := rfl

/-- Both readers collect the same bytes, and only a failing source reports that some are missing. -/
theorem Mirrors.fill
    {reader buffered : RecordingReader}
    {ending : Option StreamFault}
    (mirrors : reader.Mirrors buffered ending)
    (needed : Nat) :
    (reader.source.fill needed).bytes = (buffered.source.fill needed).bytes ∧
      (reader.source.fill needed).fault =
        (if (buffered.source.fill needed).bytes.length < needed then ending else none) ∧
      (buffered.source.fill needed).fault = none ∧
      (buffered.source.fill needed).bytes.length ≤ needed ∧
      ∀ {entries others : Nat}, entries = others →
        Mirrors ⟨(reader.source.fill needed).source, entries⟩
          ⟨(buffered.source.fill needed).source, others⟩ ending := by
  obtain ⟨ahead, feeds, buffer, position, -⟩ := mirrors
  obtain ⟨bytes, fault, feedsNext, moved⟩ := feeds.fill needed
  obtain ⟨sameBytes, faultless, bufferNext, sameMoved⟩ := buffer.fill needed
  have same : (reader.source.fill needed).bytes = (buffered.source.fill needed).bytes := by
    rw [bytes, sameBytes]
  have missing : ahead.length < needed ↔ (buffered.source.fill needed).bytes.length < needed := by
    rw [sameBytes, List.length_take]
    omega
  refine ⟨same, ?_, faultless.trans (ite_self none), ?_, ?_⟩
  · simp only [fault, missing]
  · rw [sameBytes]
    exact List.length_take_le needed ahead
  · intro entries others counted
    refine ⟨ahead.drop needed, feedsNext, bufferNext, ?_, counted⟩
    rw [moved, sameMoved, same, position]

/-- The same read of both readers, one step further. -/
def Agrees
    (ending : Option StreamFault)
    (step buffered : RecordingReader × Except ReadFault (Option RecordedEntry)) :
    Prop :=
  step.2 = endingWith ending buffered.2 ∧ step.1.Mirrors buffered.1 ending

/-- Both readers find the same behind a header that both have read. -/
theorem Mirrors.readPayload
    {reader buffered : RecordingReader}
    {ending : Option StreamFault}
    (mirrors : reader.Mirrors buffered ending)
    (kind : PacketKind)
    (ticks : UInt64)
    (length : Nat) :
    Agrees ending (reader.readPayload kind ticks length)
      (buffered.readPayload kind ticks length) := by
  obtain ⟨bytes, fault, faultless, bounded, goesOn⟩ := mirrors.fill length
  obtain ⟨-, -, -, -, counted⟩ := mirrors
  unfold RecordingReader.readPayload
  by_cases missing : (buffered.source.fill length).bytes.length < length
  · simp only [bytes, fault, faultless, missing, Nat.ne_of_lt missing, if_true, if_false]
    cases ending <;> exact ⟨rfl, goesOn counted⟩
  · have whole : (buffered.source.fill length).bytes.length = length :=
      Nat.le_antisymm bounded (Nat.le_of_not_lt missing)
    simp only [bytes, fault, faultless, whole, Nat.lt_irrefl, if_true, if_false]
    refine ⟨?_, goesOn (congrArg (· + 1) counted)⟩
    cases ending <;> rfl

/-- Side by side, two readers give the same result and stay side by side. -/
theorem Mirrors.next
    {reader buffered : RecordingReader}
    {ending : Option StreamFault}
    (mirrors : reader.Mirrors buffered ending) :
    Agrees ending reader.next buffered.next := by
  obtain ⟨bytes, fault, faultless, bounded, goesOn⟩ := mirrors.fill RecordedEntry.headerSize
  obtain ⟨-, -, -, -, counted⟩ := mirrors
  unfold RecordingReader.next
  by_cases missing :
      (buffered.source.fill RecordedEntry.headerSize).bytes.length < RecordedEntry.headerSize
  · simp only [bytes, fault, faultless, missing, if_true]
    -- The buffer tells the end between two entries from one inside a header, a failure does not.
    cases ending with
    | none =>
        dsimp only
        split
        · exact ⟨rfl, goesOn counted⟩
        · rw [counted]
          exact ⟨rfl, goesOn rfl⟩
    | some failure =>
        dsimp only
        split <;> exact ⟨rfl, goesOn counted⟩
  · have nonempty : (buffered.source.fill RecordedEntry.headerSize).bytes.isEmpty = false := by
      rw [← Bool.not_eq_true, List.isEmpty_iff_length_eq_zero]
      intro empty
      rw [empty] at missing
      exact missing (by decide)
    simp only [bytes, fault, faultless, missing, nonempty, Bool.false_eq_true, if_false]
    split
    · rw [counted]
      refine ⟨?_, goesOn rfl⟩
      cases ending <;> rfl
    · split
      · rw [counted]
        refine ⟨?_, goesOn rfl⟩
        cases ending <;> rfl
      · exact (goesOn counted).readPayload _ _ _

/-- So do any number of reads, also behind failures. -/
theorem Mirrors.nextMany
    {reader buffered : RecordingReader}
    {ending : Option StreamFault}
    (mirrors : reader.Mirrors buffered ending)
    (count : Nat) :
    (reader.nextMany count).2 = (buffered.nextMany count).2.map (endingWith ending) ∧
      (reader.nextMany count).1.Mirrors (buffered.nextMany count).1 ending := by
  induction count generalizing reader buffered with
  | zero => exact ⟨rfl, mirrors⟩
  | succ count inductionHypothesis =>
      obtain ⟨result, goesOn⟩ := mirrors.next
      obtain ⟨others, last⟩ := inductionHypothesis goesOn
      refine ⟨?_, last⟩
      change reader.next.2 :: (reader.next.1.nextMany count).2 =
        endingWith ending buffered.next.2 ::
          (buffered.next.1.nextMany count).2.map (endingWith ending)
      rw [result, others]

/-- Reads that are never cut short for good mirror those of one contiguous buffer. -/
theorem mirrors_scheduled
    (bytes : Bytes)
    (schedule : Nat → Delivery) :
    (ofSource (.scheduled bytes schedule none)).Mirrors (ofBytes bytes) none :=
  ⟨bytes, ⟨rfl, rfl⟩, ⟨rfl, rfl⟩, rfl, rfl⟩

theorem ofBytes_eq_scheduled (bytes : Bytes) :
    ofBytes bytes = ofSource (.scheduled bytes (fun _ => .whole) none) := rfl

/-- A source that fails from a position on is like a buffer that ends there. -/
theorem mirrors_broken
    {bytes : Bytes}
    {limit : Nat}
    (within : limit ≤ bytes.length)
    (schedule : Nat → Delivery)
    (fault : StreamFault) :
    (ofSource (.scheduled bytes schedule (some (limit, fault)))).Mirrors
      (ofBytes (bytes.take limit)) (some fault) := by
  refine ⟨bytes.take limit, ⟨List.take_prefix limit bytes, ?_⟩, ⟨rfl, rfl⟩, rfl, rfl⟩
  rw [List.length_take, Nat.min_eq_left within, ofSource, Source.scheduled, Nat.zero_add]

end RecordingReader

/-! ## The entries in front -/

namespace RecordedEntry

/-- Bytes begin with the encoding of one entry at most. -/
theorem encode_append_inj
    {entry other : RecordedEntry}
    {rest others : Bytes}
    (writable : entry.isWritable = true)
    (writableOther : other.isWritable = true)
    (same : entry.encode ++ rest = other.encode ++ others) :
    entry = other ∧ rest = others := by
  have holds : (RecordingReader.ofBytes (entry.encode ++ rest)).Holds (entry.encode ++ rest) :=
    ⟨rfl, rfl⟩
  obtain ⟨behind, read, holdsBehind⟩ := holds.next_encode writable
  rw [same] at holds read
  obtain ⟨behindOther, readOther, holdsOther⟩ := holds.next_encode writableOther
  rw [readOther] at read
  cases read
  exact ⟨rfl, holdsBehind.rest.symm.trans holdsOther.rest⟩

/-- Where the entries stop, no encoding of an entry begins. -/
theorem not_encode_prefix_of_leaves
    {stop : Stop}
    {rest : Bytes}
    (leaves : stop.Leaves rest)
    {entry : RecordedEntry}
    (writable : entry.isWritable = true) :
    ¬ entry.encode <+: rest := by
  rintro ⟨others, rfl⟩
  have holds : (RecordingReader.ofBytes (entry.encode ++ others)).Holds (entry.encode ++ others) :=
    ⟨rfl, rfl⟩
  obtain ⟨behind, read, -⟩ := holds.next_encode writable
  obtain ⟨last, yields, -⟩ := holds.yields_stop leaves
  generalize stop.fault? (RecordingReader.ofBytes (entry.encode ++ others)).entries
    (entry.encode ++ others) = fault at yields
  cases yields with
  | ended readStop => simp [read] at readStop
  | failed readStop => simp [read] at readStop

/-- Encodings that stand in front of some entries and their stop are those of the first entries. -/
theorem prefix_of_encodings_prefix
    {others entries : List RecordedEntry}
    {rest : Bytes}
    {stop : Stop}
    (writableOthers : ∀ entry ∈ others, entry.isWritable = true)
    (writable : ∀ entry ∈ entries, entry.isWritable = true)
    (leaves : stop.Leaves rest)
    (front : others.flatMap encode <+: entries.flatMap encode ++ rest) :
    others <+: entries := by
  induction others generalizing entries with
  | nil => exact List.nil_prefix
  | cons other others inductionHypothesis =>
      obtain ⟨writableOther, writableOthers⟩ := List.forall_mem_cons.mp writableOthers
      rw [List.flatMap_cons] at front
      cases entries with
      | nil =>
          have begins := (List.prefix_append other.encode (others.flatMap encode)).trans front
          exact absurd begins (not_encode_prefix_of_leaves leaves writableOther)
      | cons entry entries =>
          obtain ⟨writableEntry, writableRest⟩ := List.forall_mem_cons.mp writable
          obtain ⟨behind, parts⟩ := front
          rw [List.flatMap_cons, List.append_assoc, List.append_assoc] at parts
          obtain ⟨rfl, same⟩ := encode_append_inj writableOther writableEntry parts
          exact List.cons_prefix_cons.mpr
            ⟨rfl, inductionHypothesis writableOthers writableRest ⟨behind, same⟩⟩

/-- The entries with which bytes begin, as far as their encodings end at or before a position. -/
structure LeadUpTo
    (limit : Nat)
    (bytes : Bytes)
    (entries : List RecordedEntry) :
    Prop where
  writable : ∀ entry ∈ entries, entry.isWritable = true
  front : entries.flatMap encode <+: bytes
  within : (entries.flatMap encode).length ≤ limit
  /-- No entry that ends in time is missing. -/
  longest : ∀ others : List RecordedEntry,
    (∀ entry ∈ others, entry.isWritable = true) →
    others.flatMap encode <+: bytes → (others.flatMap encode).length ≤ limit →
    others <+: entries

/-- At most one list of entries leads up to a position. -/
theorem LeadUpTo.unique
    {limit : Nat}
    {bytes : Bytes}
    {entries others : List RecordedEntry}
    (lead : LeadUpTo limit bytes entries)
    (leadOther : LeadUpTo limit bytes others) :
    entries = others := by
  have shorter := lead.longest others leadOther.writable leadOther.front leadOther.within
  have longer := leadOther.longest entries lead.writable lead.front lead.within
  exact longer.eq_of_length_le shorter.length_le

/-- The entries of the bytes before a position are those that end there at the latest. -/
theorem leadUpTo_of_take
    {limit : Nat}
    {bytes rest : Bytes}
    {entries : List RecordedEntry}
    {stop : Stop}
    (writable : ∀ entry ∈ entries, entry.isWritable = true)
    (parts : bytes.take limit = entries.flatMap encode ++ rest)
    (leaves : stop.Leaves rest) :
    LeadUpTo limit bytes entries where
  writable := writable
  front := by
    refine List.IsPrefix.trans ?_ (List.take_prefix limit bytes)
    rw [parts]
    exact List.prefix_append _ _
  within := by
    have size := congrArg List.length parts
    rw [List.length_take, List.length_append] at size
    omega
  longest := by
    intro others writableOthers front within
    refine prefix_of_encodings_prefix writableOthers writable leaves ?_
    rw [← parts]
    exact List.prefix_take_iff.mpr ⟨front, within⟩

end RecordedEntry

/-! ## A source that fails for good -/

namespace Stop

/-- What a reader reports of a stop if its source fails at the end of the bytes. -/
def faultBehind
    (stop : Stop)
    (entries : Nat)
    (rest : Bytes)
    (fault : StreamFault) :
    ReadFault :=
  match stop with
  | .tagUnknown => .unknownTag entries (rest.headD 0)
  | .payloadTooLarge => .payloadTooLarge entries (declared rest)
  | _ => .source fault

/-- Where a buffer ends in the middle of an entry, the failing source gives its own failure. -/
theorem endingWith_fault?
    (stop : Stop)
    (entries : Nat)
    (rest : Bytes)
    (fault : StreamFault) :
    RecordingReader.endingWith (some fault)
        (((stop.fault? entries rest).map Except.error).getD (.ok none)) =
      .error (stop.faultBehind entries rest fault) := by
  cases stop <;> rfl

instance (bytes : Bytes) : Decidable (HasTag bytes) :=
  inferInstanceAs (Decidable (_ ∨ _))

/-- At a position of some bytes a header that no entry has lies wholly before a limit. -/
def IsMalformedHeader
    (bytes : Bytes)
    (start limit : Nat) :
    Prop :=
  start + RecordedEntry.headerSize ≤ limit ∧
    (¬ HasTag (bytes.drop start) ∨ RecordedEntry.largestPayload < declared (bytes.drop start))

/-- How a header that no entry has is reported. -/
def headerFault
    (entries : Nat)
    (bytes : Bytes) :
    ReadFault :=
  if HasTag bytes then
    .payloadTooLarge entries (declared bytes)
  else
    .unknownTag entries (bytes.headD 0)

/-- The first bytes of a sequence have the tag and the length of the sequence. -/
theorem header_take
    {bytes : Bytes}
    {count : Nat}
    (whole : RecordedEntry.headerSize ≤ count) :
    (HasTag (bytes.take count) ↔ HasTag bytes) ∧
      (bytes.take count).headD 0 = bytes.headD 0 ∧
      declared (bytes.take count) = declared bytes := by
  have first : (bytes.take count).head? = bytes.head? := by
    rw [List.head?_take, if_neg]
    rintro rfl
    exact absurd whole (by decide)
  refine ⟨?_, ?_, ?_⟩
  · rw [HasTag, HasTag, first]
  · rw [List.headD_eq_head?_getD, List.headD_eq_head?_getD, first]
  · rw [declared, declared, Bytes.field_take whole]

/-- What is left before a limit behind some front. -/
theorem rest_of_take
    {bytes front rest : Bytes}
    {limit : Nat}
    (within : limit ≤ bytes.length)
    (parts : bytes.take limit = front ++ rest) :
    rest = (bytes.drop front.length).take rest.length ∧ front.length + rest.length = limit := by
  have size : front.length + rest.length = limit := by
    rw [← List.length_append, ← parts, List.length_take, Nat.min_eq_left within]
  have count : rest.length = limit - front.length := by
    omega
  refine ⟨?_, size⟩
  rw [count, ← List.drop_take, parts, List.drop_left' rfl]

/-- A header that lies before a limit is the same in the bytes as a whole. -/
theorem header_of_rest
    {bytes front rest : Bytes}
    {limit : Nat}
    (within : limit ≤ bytes.length)
    (parts : bytes.take limit = front ++ rest)
    (whole : RecordedEntry.headerSize ≤ rest.length) :
    (HasTag rest ↔ HasTag (bytes.drop front.length)) ∧
      rest.headD 0 = (bytes.drop front.length).headD 0 ∧
      declared rest = declared (bytes.drop front.length) := by
  obtain ⟨same, -⟩ := rest_of_take within parts
  have read := @header_take (bytes.drop front.length) _ whole
  rw [← same] at read
  exact read

/-- A malformed header before a limit is what makes the entries before the limit stop. -/
theorem isMalformedHeader_iff
    {bytes front rest : Bytes}
    {limit : Nat}
    {stop : Stop}
    (within : limit ≤ bytes.length)
    (parts : bytes.take limit = front ++ rest)
    (leaves : stop.Leaves rest) :
    IsMalformedHeader bytes front.length limit ↔ stop = .tagUnknown ∨ stop = .payloadTooLarge := by
  have size := (rest_of_take within parts).2
  have before : front.length + RecordedEntry.headerSize ≤ limit ↔
      RecordedEntry.headerSize ≤ rest.length := by
    omega
  rw [IsMalformedHeader, before]
  by_cases whole : RecordedEntry.headerSize ≤ rest.length
  · obtain ⟨tag, -, length⟩ := header_of_rest within parts whole
    rw [← tag, ← length]
    cases stop with
    | ended =>
        obtain rfl : rest = [] := leaves
        exact absurd whole (by decide)
    | headerCut => exact absurd leaves.2 (Nat.not_lt.mpr whole)
    | tagUnknown => exact ⟨fun _ => .inl rfl, fun _ => ⟨whole, .inl leaves.2⟩⟩
    | payloadTooLarge => exact ⟨fun _ => .inr rfl, fun _ => ⟨whole, .inr leaves.2.2⟩⟩
    | payloadCut =>
        obtain ⟨-, tagged, bounded, -⟩ := leaves
        simp [tagged, Nat.not_lt.mpr bounded]
  · refine ⟨fun header => absurd header.1 whole, ?_⟩
    rintro (rfl | rfl)
    · exact absurd leaves.1 whole
    · exact absurd leaves.1 whole

/-- A header that no entry has is reported as malformed, though the source fails behind it. -/
theorem faultBehind_of_malformed
    {bytes front rest : Bytes}
    {limit : Nat}
    {stop : Stop}
    (within : limit ≤ bytes.length)
    (parts : bytes.take limit = front ++ rest)
    (leaves : stop.Leaves rest)
    (malformed : stop = .tagUnknown ∨ stop = .payloadTooLarge)
    (entries : Nat)
    (fault : StreamFault) :
    (∃ details, (stop.faultBehind entries rest fault).toError =
        .malformedPacket "recording entry" details) ∧
      stop.faultBehind entries rest fault =
        headerFault entries (bytes.drop front.length) := by
  rcases malformed with rfl | rfl
  · obtain ⟨whole, untagged⟩ := leaves
    obtain ⟨tag, first, -⟩ := header_of_rest within parts whole
    refine ⟨⟨_, rfl⟩, ?_⟩
    rw [headerFault, if_neg (mt tag.mpr untagged), ← first, faultBehind]
  · obtain ⟨whole, tagged, -⟩ := leaves
    obtain ⟨tag, -, length⟩ := header_of_rest within parts whole
    refine ⟨⟨_, rfl⟩, ?_⟩
    rw [headerFault, if_pos (tag.mp tagged), ← length, faultBehind]

end Stop

namespace RecordingReader

/-- Behind the entries that a reader yields comes its end or its failure. -/
theorem Yields.nextMany
    {reader last : RecordingReader}
    {entries : List RecordedEntry}
    {fault : Option ReadFault}
    (yields : reader.Yields entries fault last)
    (count : Nat) :
    ∃ later, (reader.nextMany (entries.length + 1 + count)).2 =
      entries.map (fun entry => .ok (some entry)) ++
        ((fault.map Except.error).getD (.ok none)) :: later := by
  induction yields with
  | @ended reader last read =>
      refine ⟨(last.nextMany count).2, ?_⟩
      rw [List.length_nil, Nat.zero_add, Nat.add_comm, RecordingReader.nextMany, read]
      rfl
  | @failed reader last fault read =>
      refine ⟨(last.nextMany count).2, ?_⟩
      rw [List.length_nil, Nat.zero_add, Nat.add_comm, RecordingReader.nextMany, read]
      rfl
  | @entry reader behind last entry entries fault read others inductionHypothesis =>
      obtain ⟨later, answers⟩ := inductionHypothesis
      have total : (entry :: entries).length + 1 + count = entries.length + 1 + count + 1 := by
        rw [List.length_cons]
        omega
      refine ⟨later, ?_⟩
      rw [total, RecordingReader.nextMany, read]
      exact congrArg (_ :: ·) answers

/-- What a reader gets from a source that fails for good from a position on. -/
structure FailsAt
    (limit : Nat)
    (fault : StreamFault)
    (bytes : Bytes)
    (schedule : Nat → Delivery)
    (entries : List RecordedEntry)
    (failure : ReadFault) :
    Prop where
  /-- The entries are those that end at or before the position. -/
  lead : RecordedEntry.LeadUpTo limit bytes entries
  results : ∀ count, ∃ later,
    ((ofSource (.scheduled bytes schedule (some (limit, fault)))).nextMany
        (entries.length + 1 + count)).2 =
      entries.map (fun entry => .ok (some entry)) ++ .error failure :: later
  /-- A header that lies before the position and is malformed is reported as such. -/
  malformed :
    Stop.IsMalformedHeader bytes (entries.flatMap RecordedEntry.encode).length limit →
    (∃ details, failure.toError = .malformedPacket "recording entry" details) ∧
      failure = Stop.headerFault entries.length
        (bytes.drop (entries.flatMap RecordedEntry.encode).length)
  /-- Otherwise the failure is the source's own. -/
  broken :
    ¬ Stop.IsMalformedHeader bytes (entries.flatMap RecordedEntry.encode).length limit →
    failure.toError = .sinkFailure "recording read" fault

/-- Every source that fails for good gives the entries before its end and then one failure. -/
theorem exists_failsAt
    {bytes : Bytes}
    {limit : Nat}
    (within : limit ≤ bytes.length)
    (schedule : Nat → Delivery)
    (fault : StreamFault) :
    ∃ entries failure, FailsAt limit fault bytes schedule entries failure := by
  obtain ⟨entries, rest, stop, writable, parts, leaves⟩ :=
    RecordedEntry.exists_entries_and_stop (bytes.take limit)
  refine ⟨entries, stop.faultBehind entries.length rest fault,
    RecordedEntry.leadUpTo_of_take writable parts leaves, ?_, ?_, ?_⟩
  · intro count
    obtain ⟨last, yields, -⟩ := yields_scheduled writable leaves (fun _ => .whole)
    rw [← parts] at yields
    obtain ⟨later, answers⟩ := yields.nextMany count
    have mirrored := ((mirrors_broken within schedule fault).nextMany
      (entries.length + 1 + count)).1
    refine ⟨later.map (endingWith (some fault)), ?_⟩
    rw [mirrored, ofBytes_eq_scheduled, answers, List.map_append, List.map_cons, List.map_map,
      Stop.endingWith_fault?]
    rfl
  · intro malformed
    rw [Stop.isMalformedHeader_iff within parts leaves] at malformed
    exact Stop.faultBehind_of_malformed within parts leaves malformed _ fault
  · intro wellFormed
    rw [Stop.isMalformedHeader_iff within parts leaves] at wellFormed
    cases stop <;> simp [Stop.faultBehind, ReadFault.toError] at wellFormed ⊢

/-- Any number of reads, however they are served, like those of one contiguous buffer. -/
structure ReadsAlike
    (bytes : Bytes)
    (schedule : Nat → Delivery)
    (count : Nat) :
    Prop where
  results : ((ofSource (.scheduled bytes schedule none)).nextMany count).2 =
    ((ofBytes bytes).nextMany count).2
  counted : ((ofSource (.scheduled bytes schedule none)).nextMany count).1.entries =
    ((ofBytes bytes).nextMany count).1.entries
  consumed : ((ofSource (.scheduled bytes schedule none)).nextMany count).1.source.position =
    ((ofBytes bytes).nextMany count).1.source.position

/-- However reads are delivered, they are those of one contiguous buffer. -/
theorem readsAlike
    (bytes : Bytes)
    (schedule : Nat → Delivery)
    (count : Nat) :
    ReadsAlike bytes schedule count := by
  obtain ⟨results, ahead, -, -, position, entries⟩ :=
    (mirrors_scheduled bytes schedule).nextMany count
  refine ⟨?_, entries, position⟩
  rw [results]
  exact List.map_id'' endingWith_none _

/--
How the bytes of a recording are delivered does not matter, and a source that fails at some position
gives the entries in front of it and one failure.
-/
theorem reading_ignores_delivery
    {bytes : Bytes}
    {limit : Nat}
    (within : limit ≤ bytes.length)
    (schedule : Nat → Delivery)
    (fault : StreamFault) :
    (∀ count, ReadsAlike bytes schedule count) ∧
      ∃ entries failure, FailsAt limit fault bytes schedule entries failure :=
  ⟨readsAlike bytes schedule, exists_failsAt within schedule fault⟩

/-- Reads of at most three bytes, of which every other is interrupted twice. -/
def haltingSchedule (turn : Nat) : Delivery where
  interruptions := if turn % 2 = 0 then 2 else 0
  further := some 2

/-- A device that is unplugged inside the header of the second of three entries. -/
theorem unplugged_device_gives_first_entry :
    20 ≤ (shortRecording.flatMap RecordedEntry.encode).length ∧
    ∃ failure later,
      ((ofSource (.scheduled (shortRecording.flatMap RecordedEntry.encode) haltingSchedule
          (some (20, ⟨.other, "device unplugged"⟩)))).nextMany 3).2 =
        .ok (some ⟨.navigation, 0, [1, 2, 3]⟩) :: .error failure :: later ∧
      failure.toError = .sinkFailure "recording read" ⟨.other, "device unplugged"⟩ := by
  have within : 20 ≤ (shortRecording.flatMap RecordedEntry.encode).length := by
    decide
  obtain ⟨-, entries, failure, lead, results, -, broken⟩ :=
    reading_ignores_delivery within haltingSchedule ⟨.other, "device unplugged"⟩
  have leaves : Stop.headerCut.Leaves [2, 160, 37, 38] := ⟨by decide, by decide⟩
  have first : RecordedEntry.LeadUpTo 20 (shortRecording.flatMap RecordedEntry.encode)
      [⟨.navigation, 0, [1, 2, 3]⟩] :=
    RecordedEntry.leadUpTo_of_take (by decide) (by decide) leaves
  obtain rfl := lead.unique first
  obtain ⟨later, answers⟩ := results 1
  refine ⟨within, failure, later, answers, broken ?_⟩
  rintro ⟨before, -⟩
  exact absurd before (by decide)

end RecordingReader

end DroneSession
