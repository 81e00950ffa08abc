import DroneSession.Proofs.Recording.Reader

namespace DroneSession

/-!
# Entries and what is left behind them

Every sequence of bytes begins with the encodings of some entries, behind which no further entry
stands.  What is left there is nothing, a part of a header, a header with an unknown tag or with a
length that no entry has, or a header with a part of its payload.  Encodings that are cut off
anywhere leave nothing or a part of one entry.
-/

/-- Every tag but those of the two streams is unknown. -/
theorem PacketKind.ofTag?_eq_none_iff
    {tag : UInt8} :
    ofTag? tag = none ↔ tag ≠ 1 ∧ tag ≠ 2 := by
  unfold ofTag?
  by_cases first : tag = 1
  · simp [first]
  · by_cases second : tag = 2
    · simp [second]
    · simp [first, second]

/-- A stream has the tag from which it is read. -/
theorem PacketKind.tag_of_ofTag?
    {tag : UInt8}
    {kind : PacketKind}
    (known : ofTag? tag = some kind) :
    kind.tag = tag := by
  unfold ofTag? at known
  by_cases first : tag = 1
  · rw [if_pos first] at known
    cases known
    exact first.symm
  · rw [if_neg first] at known
    by_cases second : tag = 2
    · rw [if_pos second] at known
      cases known
      exact second.symm
    · rw [if_neg second] at known
      cases known

/-- Why the entries of a recording stop. -/
inductive Stop where
  /-- The recording has come to its end. -/
  | ended
  | headerCut
  | tagUnknown
  | payloadTooLarge
  | payloadCut
  deriving DecidableEq

namespace Stop

/-- Bytes that begin with the tag of a stream. -/
def HasTag (bytes : Bytes) : Prop :=
  bytes.head? = some 1 ∨ bytes.head? = some 2

/-- The payload length that bytes declare if they begin with a header. -/
def declared (bytes : Bytes) : Nat :=
  bytes.field 9 4

/-- What is left of a recording where its entries stop. -/
def Leaves : Stop → Bytes → Prop
  | .ended, rest => rest = []
  | .headerCut, rest => 0 < rest.length ∧ rest.length < RecordedEntry.headerSize
  | .tagUnknown, rest => RecordedEntry.headerSize ≤ rest.length ∧ ¬ HasTag rest
  | .payloadTooLarge, rest =>
      RecordedEntry.headerSize ≤ rest.length ∧ HasTag rest ∧
        RecordedEntry.largestPayload < declared rest
  | .payloadCut, rest =>
      RecordedEntry.headerSize ≤ rest.length ∧ HasTag rest ∧
        declared rest ≤ RecordedEntry.largestPayload ∧
        rest.length < RecordedEntry.headerSize + declared rest

/-- How a reader reports a stop that it meets behind some entries. -/
def fault?
    (stop : Stop)
    (entries : Nat)
    (rest : Bytes) :
    Option ReadFault :=
  match stop with
  | .ended => none
  | .headerCut => some (.headerTruncated entries rest.length)
  | .tagUnknown => some (.unknownTag entries (rest.headD 0))
  | .payloadTooLarge => some (.payloadTooLarge entries (declared rest))
  | .payloadCut => some .payloadTruncated

/-- The class of the failure that a stop is reported as. -/
def Reports : Stop → Option SessionError → Prop
  | .ended, error => error = none
  | .headerCut, error =>
      ∃ text, error = some (.sinkFailure "recording read" ⟨.unexpectedEnd, text⟩)
  | .tagUnknown, error => ∃ details, error = some (.malformedPacket "recording entry" details)
  | .payloadTooLarge, error => ∃ details, error = some (.malformedPacket "recording entry" details)
  | .payloadCut, error =>
      ∃ text, error = some (.sinkFailure "recording read" ⟨.unexpectedEnd, text⟩)

/-- Every stop is reported as a failure of its class, and the end as none. -/
theorem reports_fault?
    (stop : Stop)
    (entries : Nat)
    (rest : Bytes) :
    stop.Reports ((stop.fault? entries rest).map ReadFault.toError) := by
  cases stop with
  | ended => rfl
  | headerCut => exact ⟨_, rfl⟩
  | tagUnknown => exact ⟨_, rfl⟩
  | payloadTooLarge => exact ⟨_, rfl⟩
  | payloadCut => exact ⟨_, rfl⟩

/-- Only the end is not reported. -/
theorem fault?_eq_none_iff
    {stop : Stop}
    {entries : Nat}
    {rest : Bytes} :
    stop.fault? entries rest = none ↔ stop = .ended := by
  cases stop <;> simp [fault?]

/-- Bytes begin with the tag of a stream exactly if their first byte is one. -/
theorem hasTag_iff
    {bytes : Bytes}
    (nonempty : bytes ≠ []) :
    HasTag bytes ↔ ∃ kind, PacketKind.ofTag? (bytes.headD 0) = some kind := by
  obtain ⟨tag, others, rfl⟩ := List.exists_cons_of_ne_nil nonempty
  rw [HasTag, List.head?_cons, List.headD_cons, Option.some_inj, Option.some_inj]
  cases known : PacketKind.ofTag? tag with
  | none =>
      obtain ⟨notFirst, notSecond⟩ := PacketKind.ofTag?_eq_none_iff.mp known
      simp [notFirst, notSecond]
  | some kind =>
      rw [← PacketKind.tag_of_ofTag? known]
      cases kind <;> simp [PacketKind.tag]

/-- The same bytes can be left in one way only. -/
theorem Leaves.unique
    {stop other : Stop}
    {rest : Bytes}
    (leaves : stop.Leaves rest)
    (leavesOther : other.Leaves rest) :
    other = stop := by
  cases stop <;> cases other <;> grind [Leaves, RecordedEntry.headerSize]

end Stop

namespace RecordedEntry

theorem length_encode_eq (entry : RecordedEntry) :
    entry.encode.length = headerSize + entry.payload.length := by
  rw [encode, List.length_append, length_header]

/-- Bytes that begin with a header and have all of its payload begin with an entry. -/
theorem eq_encode_append
    {bytes : Bytes}
    {kind : PacketKind}
    (known : PacketKind.ofTag? (bytes.headD 0) = some kind)
    (whole : headerSize + bytes.field 9 4 ≤ bytes.length) :
    bytes =
      encode ⟨kind, bytes.word64 1, (bytes.drop headerSize).take (bytes.field 9 4)⟩ ++
        bytes.drop (headerSize + bytes.field 9 4) := by
  have nonempty : bytes ≠ [] := by
    rintro rfl
    simp [headerSize] at whole
  have atTag : bytes = kind.tag :: bytes.drop 1 := by
    obtain ⟨tag, others, rfl⟩ := List.exists_cons_of_ne_nil nonempty
    rw [PacketKind.tag_of_ofTag? known]
    rfl
  have atTicks : bytes.drop 1 = Bytes.ofWord64 (bytes.word64 1) ++ bytes.drop 9 := by
    refine Bytes.drop_eq_ofWord64_append_iff.mpr ⟨?_, rfl, rfl⟩
    simp only [headerSize] at whole
    omega
  have atLength : bytes.drop 9 =
      Bytes.encode 4 (bytes.field 9 4) ++ bytes.drop headerSize := by
    refine (Bytes.eq_encode_append_iff (bytes.field_lt 9 4)).mpr ⟨?_, rfl, ?_⟩
    · rw [List.length_drop]
      simp only [headerSize] at whole
      omega
    · rw [List.drop_drop]
      rfl
  have atPayload : bytes.drop headerSize =
      (bytes.drop headerSize).take (bytes.field 9 4) ++
        bytes.drop (headerSize + bytes.field 9 4) := by
    rw [← List.drop_drop, List.take_append_drop]
  have size : ((bytes.drop headerSize).take (bytes.field 9 4)).length = bytes.field 9 4 := by
    rw [List.length_take, List.length_drop]
    omega
  calc
    bytes = kind.tag :: bytes.drop 1 := atTag
    _ = kind.tag :: (Bytes.ofWord64 (bytes.word64 1) ++
          (Bytes.encode 4 (bytes.field 9 4) ++ bytes.drop headerSize)) := by
      rw [atTicks, atLength]
    _ = _ := by
      rw [encode, header, size, List.cons_append, List.cons_append, List.append_assoc,
        List.append_assoc, ← atPayload]

/-- Bytes begin with an entry, or no entry can be read from them. -/
theorem exists_encode_or_stop
    (bytes : Bytes) :
    (∃ entry rest, isWritable entry = true ∧ bytes = encode entry ++ rest) ∨
      ∃ stop : Stop, stop.Leaves bytes := by
  by_cases empty : bytes = []
  · exact .inr ⟨.ended, empty⟩
  by_cases short : bytes.length < headerSize
  · exact .inr ⟨.headerCut, List.length_pos_iff.mpr empty, short⟩
  have long : headerSize ≤ bytes.length := Nat.le_of_not_lt short
  by_cases tagged : Stop.HasTag bytes
  · by_cases large : largestPayload < Stop.declared bytes
    · exact .inr ⟨.payloadTooLarge, long, tagged, large⟩
    have bounded : Stop.declared bytes ≤ largestPayload := Nat.le_of_not_lt large
    by_cases cut : bytes.length < headerSize + Stop.declared bytes
    · exact .inr ⟨.payloadCut, long, tagged, bounded, cut⟩
    · obtain ⟨kind, known⟩ := (Stop.hasTag_iff empty).mp tagged
      refine .inl ⟨_, _, ?_, eq_encode_append known (Nat.le_of_not_lt cut)⟩
      rw [isWritable, decide_eq_true_eq]
      exact Nat.le_trans (List.length_take_le _ _) bounded
  · exact .inr ⟨.tagUnknown, long, tagged⟩

/-- Every sequence of bytes is the encodings of some entries and a rest where they stop. -/
theorem exists_entries_and_stop
    (bytes : Bytes) :
    ∃ (entries : List RecordedEntry) (rest : Bytes) (stop : Stop),
      (∀ entry ∈ entries, isWritable entry = true) ∧
      bytes = entries.flatMap encode ++ rest ∧
      stop.Leaves rest := by
  -- The induction is on the number of bytes, of which every entry takes some.
  induction size : bytes.length using Nat.strongRecOn generalizing bytes with
  | ind count inductionHypothesis =>
      rcases exists_encode_or_stop bytes with ⟨entry, others, writable, rfl⟩ | ⟨stop, leaves⟩
      · have shorter : others.length < count := by
          rw [List.length_append, length_encode_eq] at size
          simp only [headerSize] at size
          omega
        obtain ⟨entries, rest, stop, allWritable, rfl, leaves⟩ :=
          inductionHypothesis others.length shorter others rfl
        refine ⟨entry :: entries, rest, stop, ?_, ?_, leaves⟩
        · exact List.forall_mem_cons.mpr ⟨writable, allWritable⟩
        · rw [List.flatMap_cons, List.append_assoc]
      · exact ⟨[], bytes, stop, by simp, rfl, leaves⟩

/-! ## Appending entries -/

/-- A writable entry is appended behind what was written. -/
theorem append_of_writable
    {entry : RecordedEntry}
    (writable : entry.isWritable = true)
    (written : Bytes) :
    entry.append written = (written ++ entry.encode, .ok ()) := by
  simp only [append, writes, writable, if_true, List.flatten_cons, List.flatten_nil,
    List.append_nil, encode]

/-- An entry that is too large is refused and nothing is written. -/
theorem append_of_not_writable
    {entry : RecordedEntry}
    (refused : entry.isWritable = false)
    (written : Bytes) :
    entry.append written = (written, .error entry.tooLarge) := by
  simp only [append, writes, refused, Bool.false_eq_true, if_false]

/-- Appending entries adds the encodings of those that are not too large, and refuses the others. -/
theorem appendAll_eq
    (written : Bytes)
    (entries : List RecordedEntry) :
    appendAll written entries =
      ( written ++ (entries.filter isWritable).flatMap encode,
        entries.map fun entry =>
          if entry.isWritable then .ok () else .error entry.tooLarge ) := by
  induction entries generalizing written with
  | nil => simp [appendAll]
  | cons entry entries inductionHypothesis =>
      cases writable : entry.isWritable with
      | true => simp [appendAll, append_of_writable writable, inductionHypothesis, writable]
      | false => simp [appendAll, append_of_not_writable writable, inductionHypothesis, writable]

/-! ## Cutting encodings off -/

/-- Entries with the positions at which their encodings end, if the first begins at `start`. -/
def endings (start : Nat) : List RecordedEntry → List (RecordedEntry × Nat)
  | [] => []
  | entry :: entries =>
      (entry, start + entry.encode.length) :: endings (start + entry.encode.length) entries

/-- The positions between which entries lie. -/
def boundaries (start : Nat) (entries : List RecordedEntry) : List Nat :=
  start :: (endings start entries).map Prod.snd

/-- The entries whose encodings end at or before a position. -/
def endingBy (cut start : Nat) (entries : List RecordedEntry) : List RecordedEntry :=
  ((endings start entries).filter (fun ending => ending.2 ≤ cut)).map Prod.fst

/-- Entries end behind the position at which the first begins. -/
theorem le_of_mem_endings
    {entries : List RecordedEntry}
    {start : Nat}
    {ending : RecordedEntry × Nat}
    (member : ending ∈ endings start entries) :
    start ≤ ending.2 := by
  induction entries generalizing start with
  | nil => cases member
  | cons entry entries inductionHypothesis =>
      rcases List.mem_cons.mp member with rfl | later
      · exact Nat.le_add_right _ _
      · exact Nat.le_trans (Nat.le_add_right _ _) (inductionHypothesis later)

/-- No boundary lies in front of the first entry. -/
theorem le_of_mem_boundaries
    {entries : List RecordedEntry}
    {start position : Nat}
    (member : position ∈ boundaries start entries) :
    start ≤ position := by
  rcases List.mem_cons.mp member with rfl | later
  · exact Nat.le_refl position
  · obtain ⟨ending, isEnding, rfl⟩ := List.mem_map.mp later
    exact le_of_mem_endings isEnding

/-- An entry that ends before the cut is there, in front of those that follow. -/
theorem endingBy_cons_of_le
    {entry : RecordedEntry}
    {start cut : Nat}
    (behind : start + entry.encode.length ≤ cut)
    (entries : List RecordedEntry) :
    endingBy cut start (entry :: entries) =
      entry :: endingBy cut (start + entry.encode.length) entries := by
  rw [endingBy, endings, List.filter_cons_of_pos (by simpa using behind)]
  rfl

/-- Without a cut all entries are whole, and the last of them ends where the encodings end. -/
theorem endingBy_whole
    (start : Nat)
    (entries : List RecordedEntry) :
    endingBy (start + (entries.flatMap encode).length) start entries = entries ∧
      start + (entries.flatMap encode).length ∈ boundaries start entries := by
  induction entries generalizing start with
  | nil => exact ⟨rfl, List.mem_cons_self⟩
  | cons entry entries inductionHypothesis =>
      obtain ⟨whole, last⟩ := inductionHypothesis (start + entry.encode.length)
      rw [List.flatMap_cons, List.length_append, ← Nat.add_assoc]
      refine ⟨?_, List.mem_cons_of_mem start last⟩
      rw [endingBy_cons_of_le (Nat.le_add_right _ _), whole]

/-- A cut inside the first entry leaves no entry whole. -/
theorem endingBy_cons_of_lt
    {entry : RecordedEntry}
    {entries : List RecordedEntry}
    {start cut : Nat}
    (inside : cut < start + entry.encode.length) :
    endingBy cut start (entry :: entries) = [] := by
  rw [endingBy, List.map_eq_nil_iff, List.filter_eq_nil_iff]
  intro ending member
  rw [decide_eq_true_eq, Nat.not_le]
  rcases List.mem_cons.mp member with rfl | later
  · exact inside
  · exact Nat.lt_of_lt_of_le inside (le_of_mem_endings later)

/-- The entries that end before a cut are the first ones. -/
theorem endingBy_prefix
    {cut start : Nat}
    {entries : List RecordedEntry} :
    endingBy cut start entries <+: entries := by
  induction entries generalizing start with
  | nil => exact List.nil_prefix
  | cons entry entries inductionHypothesis =>
      by_cases inside : cut < start + entry.encode.length
      · rw [endingBy_cons_of_lt inside]
        exact List.nil_prefix
      · rw [endingBy_cons_of_le (Nat.le_of_not_lt inside)]
        exact List.cons_prefix_cons.mpr ⟨rfl, inductionHypothesis⟩

/-- A boundary behind the first entry is a boundary of the entries that follow. -/
theorem mem_boundaries_cons_iff
    {entry : RecordedEntry}
    {start cut : Nat}
    (behind : start < cut)
    (entries : List RecordedEntry) :
    cut ∈ boundaries start (entry :: entries) ↔
      cut ∈ boundaries (start + entry.encode.length) entries := by
  rw [boundaries, endings, List.map_cons, List.mem_cons]
  constructor
  · rintro (atStart | later)
    · exact absurd atStart (Nat.ne_of_gt behind)
    · exact later
  · exact .inr

/-- The first bytes of an entry, not all of them, are a cut header or a cut payload. -/
theorem take_encode_leaves
    {entry : RecordedEntry}
    (writable : entry.isWritable = true)
    {count : Nat}
    (positive : 0 < count)
    (inside : count < entry.encode.length) :
    Stop.headerCut.Leaves (entry.encode.take count) ∨
      Stop.payloadCut.Leaves (entry.encode.take count) := by
  have size : (entry.encode.take count).length = count := by
    rw [List.length_take, Nat.min_eq_left (Nat.le_of_lt inside)]
  by_cases short : count < headerSize
  · left
    rw [Stop.Leaves, size]
    exact ⟨positive, short⟩
  · right
    have long : headerSize ≤ count := Nat.le_of_not_lt short
    have bounded : entry.payload.length ≤ largestPayload := by
      simpa only [isWritable, decide_eq_true_eq] using writable
    have tagged : Stop.HasTag (entry.encode.take count) := by
      obtain ⟨rest, rfl⟩ := Nat.exists_eq_add_of_le' positive
      rw [Stop.HasTag, encode, header, List.cons_append, List.take_succ_cons, List.head?_cons]
      cases entry.kind with
      | navigation => exact .inl rfl
      | video => exact .inr rfl
    have declares : Stop.declared (entry.encode.take count) = entry.payload.length := by
      obtain ⟨-, -, length⟩ := header_fields writable
      have front : (entry.encode.take count).take headerSize = entry.header := by
        rw [List.take_take, Nat.min_eq_left long, encode, List.take_left' entry.length_header]
      rw [Stop.declared, ← length, ← front]
      exact (Bytes.field_take (by decide)).symm
    rw [Stop.Leaves, size, declares, ← length_encode_eq]
    exact ⟨long, tagged, bounded, inside⟩

/--
Encodings that are cut off are those of the entries that end before the cut, and a part of the next
entry unless the cut lies between entries.
-/
theorem exists_take_encodings
    {entries : List RecordedEntry}
    (writable : ∀ entry ∈ entries, entry.isWritable = true)
    (start : Nat)
    {count : Nat}
    (within : count ≤ (entries.flatMap encode).length) :
    ∃ (rest : Bytes) (stop : Stop),
      (entries.flatMap encode).take count =
        (endingBy (start + count) start entries).flatMap encode ++ rest ∧
      stop.Leaves rest ∧
      (start + count ∈ boundaries start entries → stop = .ended) ∧
      (start + count ∉ boundaries start entries → stop = .headerCut ∨ stop = .payloadCut) := by
  induction entries generalizing start count with
  | nil =>
      obtain rfl := Nat.le_zero.mp within
      refine ⟨[], .ended, rfl, rfl, fun _ => rfl, ?_⟩
      intro outside
      exact absurd List.mem_cons_self outside
  | cons entry entries inductionHypothesis =>
      have writableRest : ∀ other ∈ entries, other.isWritable = true := by
        intro other member
        exact writable other (List.mem_cons_of_mem entry member)
      rw [List.flatMap_cons]
      by_cases inside : count < entry.encode.length
      · rw [endingBy_cons_of_lt (Nat.add_lt_add_left inside start),
          List.take_append_of_le_length (Nat.le_of_lt inside)]
        rcases Nat.eq_zero_or_pos count with rfl | positive
        · refine ⟨[], .ended, rfl, rfl, fun _ => rfl, ?_⟩
          intro outside
          exact absurd List.mem_cons_self outside
        · -- A position inside the first entry is no boundary, for the next one is where it ends.
          have outside : start + count ∉ boundaries start (entry :: entries) := by
            rw [mem_boundaries_cons_iff (Nat.lt_add_of_pos_right positive)]
            intro member
            exact Nat.not_lt.mpr (le_of_mem_boundaries member) (Nat.add_lt_add_left inside start)
          rcases take_encode_leaves (writable entry List.mem_cons_self) positive inside with
            leaves | leaves
          · exact ⟨_, .headerCut, rfl, leaves, fun member => absurd member outside,
              fun _ => .inl rfl⟩
          · exact ⟨_, .payloadCut, rfl, leaves, fun member => absurd member outside,
              fun _ => .inr rfl⟩
      · obtain ⟨later, rfl⟩ := Nat.exists_eq_add_of_le (Nat.le_of_not_lt inside)
        have withinRest : later ≤ (entries.flatMap encode).length := by
          rw [List.flatMap_cons, List.length_append] at within
          exact Nat.le_of_add_le_add_left within
        obtain ⟨rest, stop, parts, leaves, atBoundary, insideEntry⟩ :=
          inductionHypothesis writableRest (start + entry.encode.length) withinRest
        have behind : start < start + entry.encode.length + later := by
          rw [length_encode_eq]
          simp only [headerSize]
          omega
        rw [← Nat.add_assoc, mem_boundaries_cons_iff behind,
          endingBy_cons_of_le (Nat.le_add_right _ _), List.take_length_add_append]
        refine ⟨rest, stop, ?_, leaves, atBoundary, insideEntry⟩
        rw [parts, List.flatMap_cons, List.append_assoc]

end RecordedEntry

end DroneSession
