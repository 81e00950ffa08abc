import DroneSession.Proofs.Telemetry.RoundTrip

namespace DroneSession

/-!
# Corrupted packets

One byte of an encoded record is replaced.  The checksum finds the change wherever the options still
stand where they stood, that is unless the byte belongs to the size of the demo option or to the
checksum option itself.  Such a packet may be accepted without its checksum, but there is no room
for another demo option in it, so what is accepted is the record that was encoded.
-/

namespace Bytes

/-- A stretch of bytes that a replaced byte lies outside of is what it was. -/
theorem take_drop_set
    {position offset width : Nat}
    (outside : position < offset ∨ offset + width ≤ position)
    (bytes : Bytes)
    (value : UInt8) :
    ((bytes.set position value).drop offset).take width = (bytes.drop offset).take width := by
  rw [List.drop_set]
  rcases outside with before | behind
  · rw [if_pos before]
  · rw [if_neg (by omega), List.take_set_of_le (by omega)]

/-- A half word is what it was if a byte outside of it is replaced. -/
theorem word16_set
    {position offset : Nat}
    (outside : position < offset ∨ offset + 2 ≤ position)
    (bytes : Bytes)
    (value : UInt8) :
    word16 (bytes.set position value) offset = bytes.word16 offset := by
  rw [word16, field, take_drop_set outside, ← field, ← word16]

/-- A word is what it was if a byte outside of it is replaced. -/
theorem word32_set
    {position offset : Nat}
    (outside : position < offset ∨ offset + 4 ≤ position)
    (bytes : Bytes)
    (value : UInt8) :
    word32 (bytes.set position value) offset = bytes.word32 offset := by
  rw [word32, field, take_drop_set outside, ← field, ← word32]

theorem sum_append
    (first second : Bytes) :
    sum (first ++ second) = first.sum + second.sum := by
  have onward :
      ∀ (bytes : Bytes) (total : UInt32),
        bytes.foldl (fun total byte => total + byte.toUInt32) total = total + bytes.sum := by
    intro bytes
    induction bytes with
    | nil =>
        intro total
        simp [sum]
    | cons byte rest inductionHypothesis =>
        intro total
        rw [sum, List.foldl_cons, List.foldl_cons, inductionHypothesis, inductionHypothesis]
        simp [UInt32.add_assoc]
  rw [sum, List.foldl_append, onward]
  rfl

/-- The sum finds every change of a single byte. -/
theorem sum_set_eq_iff
    {bytes : Bytes}
    {position : Nat}
    (inside : position < bytes.length)
    {value : UInt8} :
    sum (bytes.set position value) = bytes.sum ↔ value = bytes[position] := by
  have shape :
      ∀ byte : UInt8,
        sum (bytes.set position byte) =
          sum (bytes.take position) + (byte.toUInt32 + sum (bytes.drop (position + 1))) := by
    intro byte
    have single : sum [byte] = byte.toUInt32 := by
      simp [sum]
    rw [List.set_eq_take_append_cons_drop, if_pos inside, sum_append, ← List.singleton_append,
      sum_append, single]
  have same := shape bytes[position]
  rw [List.set_getElem_self] at same
  rw [shape, same, UInt32.add_right_inj, UInt32.add_left_inj, UInt8.toUInt32_inj]

end Bytes

namespace Wire

/-! ## The packet of a record -/

theorem length_checksumBlock_bytes (record : NavigationRecord) :
    (checksumBlock record).bytes.length = optionHeaderSize + 4 := by
  rw [Block.length_bytes, length_checksumBlock_payload]

/-- An encoded record is its header and two options. -/
theorem encode_eq (record : NavigationRecord) :
    encode record =
      header record ++ ((demoBlock record).bytes ++ (checksumBlock record).bytes) := by
  rw [encode_eq_append, encodeBody_eq, List.flatMap_singleton, List.append_assoc]

/-- Where the parts of the demo option stand in the packet of a record. -/
theorem demoBlock_in_encode (record : NavigationRecord) :
    (encode record).word16 headerSize = demoTag ∧
      ((encode record).word16 (headerSize + 2)).toNat = optionHeaderSize + demoSize ∧
      ((encode record).drop (headerSize + optionHeaderSize)).take demoSize =
        (demoBlock record).payload ∧
      (encode record).drop leastSize = (checksumBlock record).bytes := by
  have behind := (eq_header_append_iff.mp (encode_eq record)).2.2.2.2.2
  have parts := (drop_eq_bytes_append_iff (demoBlock_admissible record).sized).mp behind
  rw [length_demoBlock_payload] at parts
  exact ⟨parts.2.1, parts.2.2.1, parts.2.2.2.1, parts.2.2.2.2⟩

/-! ## What a packet carries -/

/-- A demo goes on standing in its payload when more is written behind it. -/
theorem Demo.StandsIn.append
    {demo : Demo}
    {payload : Bytes}
    (stands : demo.StandsIn payload)
    (behind : Bytes) :
    demo.StandsIn (payload ++ behind) := by
  obtain ⟨control, more, state, shape⟩ := stands
  exact ⟨control, more ++ behind, state, by rw [shape, List.append_assoc]⟩

/-- A packet is refused as malformed. -/
def IsRefused (packet : Bytes) : Prop :=
  ∃ (fault : Fault) (context details : String),
    decode packet = .error fault ∧ fault.toError = .malformedPacket context details

/-- A packet is refused unless it carries a record. -/
theorem isRefused_or_carries (packet : Bytes) :
    IsRefused packet ∨ ∃ record, Carries packet record := by
  simp only [← decode_eq_ok_iff_carries, IsRefused]
  cases decode packet with
  | error fault =>
      simp [Fault.toError]
  | ok record =>
      simp

/-- A packet that carries a record goes on behind its header with an option that is admissible. -/
theorem Layout.exists_first
    {packet rest : Bytes}
    {record : NavigationRecord}
    {blocks : List Block}
    {newest : Block}
    (layout : Layout packet record blocks newest rest) :
    ∃ block others,
      blocks = block :: others ∧
      block.Admissible ∧
      packet.drop headerSize = block.bytes ++ (others.flatMap Block.bytes ++ rest) := by
  cases blocks with
  | nil =>
      cases layout.last
  | cons block others =>
      have parts := layout.parts
      rw [List.append_assoc, List.flatMap_cons, List.append_assoc] at parts
      exact ⟨block, others, rfl, layout.admissible block List.mem_cons_self,
        (eq_header_append_iff.mp parts).2.2.2.2.2⟩

/-- Options with something behind them determine both. -/
theorem Block.append_inj
    {first second : Block}
    {firstRest secondRest : Bytes}
    (firstSized : first.Sized)
    (secondSized : second.Sized)
    (same : first.bytes ++ firstRest = second.bytes ++ secondRest) :
    first = second ∧ firstRest = secondRest := by
  have firstWritten : (first.bytes ++ firstRest).drop 0 = first.bytes ++ firstRest := rfl
  have secondWritten : (first.bytes ++ firstRest).drop 0 = second.bytes ++ secondRest := same
  rw [drop_eq_bytes_append_iff firstSized] at firstWritten
  rw [drop_eq_bytes_append_iff secondSized] at secondWritten
  obtain ⟨-, tag, size, payload, behind⟩ := firstWritten
  obtain ⟨-, sameTag, sameSize, samePayload, sameBehind⟩ := secondWritten
  have sameLength : second.payload.length = first.payload.length := by
    omega
  rw [sameLength] at samePayload sameBehind
  refine ⟨?_, behind.symm.trans sameBehind⟩
  rw [Block.mk.injEq]
  exact ⟨tag.symm.trans sameTag, payload.symm.trans samePayload⟩

/-- The checksum of a record closes only bytes of the same sum. -/
theorem sum_eq_of_closes
    {before : Bytes}
    {record : NavigationRecord}
    (closes : Closes before (checksumBlock record).bytes) :
    before.sum = (encodeBody record).sum := by
  rcases closes with short | ⟨payload, ignored, parts, sized, more, certified⟩
  · rw [length_checksumBlock_bytes] at short
    omega
  · rw [← List.append_nil (checksumBlock record).bytes] at parts
    obtain ⟨same, -⟩ := Block.append_inj (checksumBlock_sized record) sized parts
    have samePayload : Bytes.ofWord32 (encodeBody record).sum = payload :=
      congrArg Block.payload same
    have stands : payload = Bytes.ofWord32 (encodeBody record).sum ++ [] := by
      rw [List.append_nil, samePayload]
    rw [Bytes.eq_ofWord32_append_iff] at certified stands
    exact certified.2.1.symm.trans stands.2.1

/-- Options in less room than a demo option needs hold none. -/
theorem lastDemo?_of_short
    {blocks : List Block}
    (admissible : ∀ block ∈ blocks, block.Admissible)
    (short : (blocks.flatMap Block.bytes).length < optionHeaderSize + demoSize) :
    lastDemo? blocks = none := by
  rw [lastDemo?, List.getLast?_eq_none_iff, List.filter_eq_nil_iff]
  intro block member isDemo
  have long := (admissible block member).long (of_decide_eq_true isDemo)
  obtain ⟨before, behind, rfl⟩ := List.append_of_mem member
  rw [List.flatMap_append, List.flatMap_cons, List.length_append, List.length_append,
    Block.length_bytes] at short
  omega

/-! ## One corrupted byte -/

variable {record : NavigationRecord} {position : Nat} {value : UInt8}

/-- The bytes whose changes the checksum finds: the header and the demo option without its size. -/
def IsGuarded (position : Nat) : Prop :=
  position < headerSize + 2 ∨
    headerSize + optionHeaderSize ≤ position ∧ position < leastSize

/-- Changing a guarded byte leaves nothing that carries a record. -/
theorem not_carries_of_guarded
    (guarded : IsGuarded position)
    (inside : position < (encode record).length)
    (changed : value ≠ (encode record)[position])
    (found : NavigationRecord) :
    ¬ Carries ((encode record).set position value) found := by
  rintro ⟨blocks, newest, rest, layout⟩
  obtain ⟨-, size, -, ending⟩ := demoBlock_in_encode record
  obtain ⟨block, others, rfl, admissible, behind⟩ := layout.exists_first
  obtain ⟨-, -, sizeFound, -, after⟩ := (drop_eq_bytes_append_iff admissible.sized).mp behind
  have beforeEnd : position < leastSize := by
    simp only [IsGuarded, leastSize, headerSize, optionHeaderSize, demoSize] at *
    omega
  -- The size stands as it was, so the demo option still ends in front of the checksum.
  rw [Bytes.word16_set (by simp only [IsGuarded, optionHeaderSize] at *; omega), size] at sizeFound
  have length : optionHeaderSize + block.payload.length = optionHeaderSize + demoSize :=
    sizeFound.symm
  have unmoved : headerSize + (optionHeaderSize + demoSize) = leastSize := rfl
  rw [length, unmoved, List.drop_set, if_pos beforeEnd, ending] at after
  -- What stands there is the checksum, which is no option of the list.
  cases others with
  | cons second more =>
      rw [List.flatMap_cons, List.append_assoc, ← List.append_nil (checksumBlock record).bytes]
        at after
      have admissibleToo := layout.admissible second (by simp)
      obtain ⟨rfl, -⟩ := Block.append_inj (checksumBlock_sized record) admissibleToo.sized after
      exact admissibleToo.unchecked rfl
  | nil =>
      rw [List.flatMap_nil, List.nil_append] at after
      subst after
      have insideBody : position < (encodeBody record).length := by
        rwa [length_encodeBody]
      have parts := layout.parts
      rw [encode_eq_append, List.set_append_left _ _ insideBody] at parts
      have closed := layout.closed
      rw [← List.append_cancel_right parts] at closed
      have same := (Bytes.sum_set_eq_iff insideBody).mp (sum_eq_of_closes closed)
      exact changed (same.trans (List.getElem_append_left insideBody).symm)

/-- Changing any other byte leaves nothing else to carry than the record. -/
theorem eq_of_carries
    (behindTag : headerSize + 2 ≤ position)
    (unguarded : position < headerSize + optionHeaderSize ∨ leastSize ≤ position)
    {found : NavigationRecord}
    (carries : Carries ((encode record).set position value) found) :
    found = canonicalRecord record := by
  obtain ⟨blocks, newest, rest, layout⟩ := carries
  obtain ⟨tag, -, payload, -⟩ := demoBlock_in_encode record
  obtain ⟨block, others, rfl, admissible, behind⟩ := layout.exists_first
  obtain ⟨room, tagFound, -, payloadFound, after⟩ :=
    (drop_eq_bytes_append_iff admissible.sized).mp behind
  -- The tag stands as it was, so the first option is a demo option, and there is no room for more.
  rw [Bytes.word16_set (.inr behindTag), tag] at tagFound
  have long := admissible.long tagFound.symm
  have short : (others.flatMap Block.bytes).length < optionHeaderSize + demoSize := by
    have total := congrArg List.length after
    rw [List.length_drop, List.length_set, length_encode, List.length_append] at total
    simp only [leastSize, headerSize, optionHeaderSize, demoSize] at *
    omega
  have last := layout.last
  rw [lastDemo?_cons_of_demo tagFound.symm,
    lastDemo?_of_short (fun other member => layout.admissible other (by simp [member])) short]
    at last
  obtain rfl : block = newest := Option.some.inj last
  -- Its payload starts with the words of the record.
  have words : block.payload.take demoSize = (demoBlock record).payload := by
    rw [← payloadFound, List.take_take, Nat.min_eq_left long, Bytes.take_drop_set, payload]
    exact unguarded
  have stands := (demoBlock_carries record).append (block.payload.drop demoSize)
  rw [← words, List.take_append_drop] at stands
  have sameDemo := layout.carried.unique stands
  -- So do the header words, which all stand in front of the change.
  have parts := layout.parts
  rw [List.append_assoc] at parts
  obtain ⟨-, -, statusFound, sequenceFound, visionFound, -⟩ := eq_header_append_iff.mp parts
  obtain ⟨-, -, status, sequence, vision, -⟩ := eq_header_append_iff.mp (encode_eq record)
  have inFront : ∀ {offset}, offset + 4 ≤ headerSize →
      Bytes.word32 ((encode record).set position value) offset =
        (encode record).word32 offset := by
    intro offset within
    exact Bytes.word32_set (.inr (by omega)) _ _
  rw [inFront (by decide)] at statusFound sequenceFound visionFound
  calc
    found = assemble (encode record) (demoOf found) :=
      (assemble_eq_iff.mpr ⟨statusFound, sequenceFound, visionFound, rfl⟩).symm
    _ = canonicalRecord record :=
      assemble_eq_iff.mpr ⟨status, sequence, vision, sameDemo⟩

/--
A packet with one replaced byte is refused, or gives the record that was encoded; it is always
refused if the byte belongs to the header, to the tag of the demo option or to its data.
-/
theorem corrupted_packet_never_misleads
    {record : NavigationRecord}
    {word : UInt32}
    (decoded : record.control = .ofWord word)
    {position : Nat}
    (inside : position < (encode record).length)
    (value : UInt8) :
    (IsRefused ((encode record).set position value) ∨
      decode ((encode record).set position value) = .ok record) ∧
    (IsGuarded position →
      value ≠ (encode record)[position] →
      IsRefused ((encode record).set position value)) := by
  have canonical : canonicalRecord record = record := by
    rw [canonicalRecord_eq_iff, decoded]
    exact ControlState.canonical_ofWord word
  have guardedRefused :
      IsGuarded position →
      value ≠ (encode record)[position] →
      IsRefused ((encode record).set position value) := by
    intro guarded changed
    refine (isRefused_or_carries _).resolve_right ?_
    rintro ⟨found, carries⟩
    exact not_carries_of_guarded guarded inside changed found carries
  refine ⟨?_, guardedRefused⟩
  by_cases changed : value = (encode record)[position]
  · right
    rw [changed, List.set_getElem_self, decode_encode, canonical]
  · by_cases guarded : IsGuarded position
    · exact .inl (guardedRefused guarded changed)
    · rcases isRefused_or_carries ((encode record).set position value) with
        refused | ⟨found, carries⟩
      · exact .inl refused
      · right
        simp only [IsGuarded, not_or, not_and, Nat.not_lt] at guarded
        have unguarded : position < headerSize + optionHeaderSize ∨ leastSize ≤ position := by
          omega
        have same : found = record := (eq_of_carries guarded.1 unguarded carries).trans canonical
        rw [same] at carries
        exact decode_eq_ok_iff_carries.mpr carries

/-- The record of a drone that stands still with half of its battery left. -/
def idleRecord : NavigationRecord where
  status := ⟨0⟩
  sequence := 7
  visionDefined := 0
  control := .ofWord 0x00020000
  battery := 50
  theta := ⟨0⟩
  phi := ⟨0⟩
  psi := ⟨0⟩
  altitude := 0
  vx := ⟨0⟩
  vy := ⟨0⟩
  vz := ⟨0⟩
  frameIndex := 0

/-- A packet that claims another battery level is refused. -/
theorem corrupted_battery_is_refused :
    idleRecord.control = .ofWord 0x00020000 ∧
      24 < (encode idleRecord).length ∧
      IsGuarded 24 ∧
      (encode idleRecord)[24]? = some 50 ∧
      IsRefused ((encode idleRecord).set 24 99) := by
  have inside : 24 < (encode idleRecord).length := by
    rw [length_encode]
    decide
  have guarded : IsGuarded 24 := .inr (by decide)
  have battery : (encode idleRecord)[24]? = some 50 := by
    decide +kernel
  have changed : (99 : UInt8) ≠ (encode idleRecord)[24] := by
    rw [List.getElem?_eq_getElem inside, Option.some.injEq] at battery
    rw [battery]
    decide
  exact ⟨rfl, inside, guarded, battery,
    (corrupted_packet_never_misleads rfl inside 99).2 guarded changed⟩

/-- A demo option that claims the first five bytes of the checksum option hides it. -/
example :
    let record : NavigationRecord :=
      ⟨⟨0⟩, 7, 0, .ofWord 0x00020000, 50, ⟨0⟩, ⟨0⟩, ⟨0⟩, 0, ⟨0⟩, ⟨0⟩, ⟨0⟩, 0⟩
    (decode ((encode record).set 18 49)).toOption = some record := by
  decide +kernel

end Wire

end DroneSession
