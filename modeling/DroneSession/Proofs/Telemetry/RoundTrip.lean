import DroneSession.Proofs.Telemetry.ControlWord
import DroneSession.Proofs.Telemetry.Grammar

namespace DroneSession

/-!
# Encoding a record and decoding it again

An encoded record is a packet of the grammar, so it decodes.  Every field comes back with all its
bits; only a control state that writes a listed value as an unknown one comes back in its other
form, which encodes to the same bytes.
-/

namespace Wire

/-- The record whose control state is the one that is decoded from its word. -/
def canonicalRecord (record : NavigationRecord) : NavigationRecord :=
  { record with control := .ofWord record.control.word }

/-- The demo option of an encoded record. -/
def demoBlock (record : NavigationRecord) : Block where
  tag := demoTag
  payload := (demoOf record).toPayload

/-- The checksum option of an encoded record. -/
def checksumBlock (record : NavigationRecord) : Block where
  tag := checksumTag
  payload := Bytes.ofWord32 (encodeBody record).sum

theorem length_demoBlock_payload (record : NavigationRecord) :
    (demoBlock record).payload.length = demoSize := by
  simp only [demoBlock, Demo.toPayload, Bytes.ofWord32, List.length_append, Bytes.length_encode,
    demoSize]

theorem length_checksumBlock_payload (record : NavigationRecord) :
    (checksumBlock record).payload.length = 4 :=
  Bytes.length_encode 4 _

/-- The demo option of an encoded record may stand where it stands. -/
theorem demoBlock_admissible (record : NavigationRecord) :
    (demoBlock record).Admissible where
  sized := by
    rw [Block.Sized, length_demoBlock_payload]
    decide
  unchecked := demoTag_ne_checksumTag
  long := fun _ => Nat.le_of_eq (length_demoBlock_payload record).symm

/-- In front of its checksum an encoded record is a header and one option. -/
theorem encodeBody_eq (record : NavigationRecord) :
    encodeBody record = header record ++ [demoBlock record].flatMap Block.bytes := by
  rw [encodeBody, List.flatMap_singleton, header]
  rfl

/-- The words of the demo option are those of the record that comes back. -/
theorem demoBlock_carries (record : NavigationRecord) :
    (demoOf (canonicalRecord record)).StandsIn (demoBlock record).payload := by
  refine ⟨record.control.word, [], rfl, ?_⟩
  rw [List.append_nil]
  rfl

/-- The checksum option of an encoded record fits its size. -/
theorem checksumBlock_sized (record : NavigationRecord) :
    (checksumBlock record).Sized := by
  rw [Block.Sized, length_checksumBlock_payload]
  decide

/-- The checksum option certifies the bytes that it stands behind. -/
theorem checksumBlock_closes (record : NavigationRecord) :
    Closes (encodeBody record) (checksumBlock record).bytes :=
  .inr ⟨(checksumBlock record).payload, [], (List.append_nil _).symm, checksumBlock_sized record,
    [], (List.append_nil _).symm⟩

/-- In front of its checksum an encoded record is as long as the shortest packet. -/
theorem length_encodeBody (record : NavigationRecord) :
    (encodeBody record).length = leastSize := by
  rw [encodeBody_eq, List.length_append, length_header, List.flatMap_singleton,
    Block.length_bytes, length_demoBlock_payload]
  rfl

/-- An encoded record ends with the checksum of everything before it. -/
theorem encode_eq_append (record : NavigationRecord) :
    encode record = encodeBody record ++ (checksumBlock record).bytes :=
  rfl

theorem length_encode (record : NavigationRecord) :
    (encode record).length = leastSize + (optionHeaderSize + 4) := by
  rw [encode_eq_append, List.length_append, length_encodeBody, Block.length_bytes,
    length_checksumBlock_payload]

/-- An encoded record is a header, a demo option and the checksum of both. -/
theorem encode_carries (record : NavigationRecord) :
    Carries (encode record) (canonicalRecord record) := by
  refine ⟨[demoBlock record], demoBlock record, (checksumBlock record).bytes, ?_⟩
  have sameHeader : header (canonicalRecord record) = header record := rfl
  constructor
  case size =>
    rw [length_encode]
    exact Nat.le_add_right leastSize _
  case parts =>
    rw [sameHeader, ← encodeBody_eq]
    rfl
  case admissible =>
    intro block member
    rw [List.mem_singleton.mp member]
    exact demoBlock_admissible record
  case closed =>
    rw [sameHeader, ← encodeBody_eq]
    exact checksumBlock_closes record
  case last => rfl
  case carried => exact demoBlock_carries record

/-- An encoded record decodes as the record with its control state in canonical form. -/
theorem decode_encode (record : NavigationRecord) :
    decode (encode record) = .ok (canonicalRecord record) :=
  decode_eq_ok_iff_carries.mpr (encode_carries record)

/-- Only the word of a control state is written, so both forms of a state encode alike. -/
theorem encode_canonicalRecord (record : NavigationRecord) :
    encode (canonicalRecord record) = encode record := by
  have sameDemo : (demoOf (canonicalRecord record)).toPayload = (demoOf record).toPayload := by
    simp only [demoOf, canonicalRecord, Demo.toPayload, ControlState.word_ofWord]
  have sameBody : encodeBody (canonicalRecord record) = encodeBody record := by
    rw [encodeBody, sameDemo]
    rfl
  rw [encode, sameBody]
  rfl

/-- A record with a canonical control state, and no other, comes back as it is. -/
theorem canonicalRecord_eq_iff
    {record : NavigationRecord} :
    canonicalRecord record = record ↔ record.control.Canonical := by
  rw [← ControlState.ofWord_word_iff]
  constructor
  · intro same
    exact congrArg NavigationRecord.control same
  · intro same
    rw [canonicalRecord, same]

/-- A decoded record has the control state of some word. -/
theorem canonical_of_decode
    {packet : Bytes}
    {record : NavigationRecord}
    (decoded : decode packet = .ok record) :
    record.control.Canonical := by
  obtain ⟨blocks, newest, rest, layout⟩ := decode_eq_ok_iff_carries.mp decoded
  obtain ⟨control, more, state, -⟩ := layout.carried
  change record.control = .ofWord control at state
  rw [state]
  exact ControlState.canonical_ofWord control

/--
What encoding and decoding make of a record: it comes back bit by bit if its control state is one
that words are decoded into, in any case it comes back as a record with the same encoding, and a
record that was decoded from anything at all comes back.
-/
structure RoundTrips (record : NavigationRecord) : Prop where
  canonical : record.control.Canonical ↔ ∃ word, record.control = .ofWord word
  returns : record.control.Canonical → decode (encode record) = .ok record
  settles : ∃ again, decode (encode record) = .ok again ∧ encode again = encode record
  repeats : ∀ packet, decode packet = .ok record → decode (encode record) = .ok record

/-- Encoding and decoding undo each other for every record, up to the form of its control state. -/
theorem roundTrips (record : NavigationRecord) : RoundTrips record := by
  have returns : record.control.Canonical → decode (encode record) = .ok record := by
    intro canonical
    rw [decode_encode, canonicalRecord_eq_iff.mpr canonical]
  constructor
  case canonical =>
    constructor
    · intro canonical
      exact ⟨record.control.word, (ControlState.ofWord_word_iff.mpr canonical).symm⟩
    · rintro ⟨word, same⟩
      rw [same]
      exact ControlState.canonical_ofWord word
  case returns => exact returns
  case settles =>
    exact ⟨canonicalRecord record, decode_encode record, encode_canonicalRecord record⟩
  case repeats =>
    intro packet decoded
    exact returns (canonical_of_decode decoded)

end Wire

end DroneSession
