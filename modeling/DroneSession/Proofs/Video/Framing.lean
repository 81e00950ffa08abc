import DroneSession.Proofs.LittleEndian
import DroneSession.Video.Framing

namespace DroneSession

/-!
# Which packets are framed

A packet is framed if it starts with the signature and is as long as its header says.  Its payload
is then the part that the header declares; every other packet with the signature is refused, and one
without it is its own payload.  A payload behind a written header comes back whatever follows it.
All of this is decided without a look behind the end of the packet.
-/

namespace Bytes

/-- A half word that was written at an offset is the one there. -/
theorem word16_of_drop
    {bytes rest : Bytes}
    {offset : Nat}
    {word : UInt16}
    (written : bytes.drop offset = ofWord16 word ++ rest) :
    bytes.word16 offset = word :=
  (drop_eq_ofWord16_append_iff.mp written).2.1

/-- A word that was written at an offset is the one there. -/
theorem word32_of_drop
    {bytes rest : Bytes}
    {offset : Nat}
    {word : UInt32}
    (written : bytes.drop offset = ofWord32 word ++ rest) :
    bytes.word32 offset = word :=
  (drop_eq_ofWord32_append_iff.mp written).2.1

end Bytes

/-- The type of a picture that was read from a byte has this byte. -/
theorem FrameType.raw_ofRaw (raw : UInt8) :
    (ofRaw raw).raw = raw := by
  unfold ofRaw
  split
  · rename_i first
    exact first.symm
  · split
    · rename_i second
      exact second.symm
    · split
      · rename_i third
        exact third.symm
      · rfl

namespace Framing

/-- The header that stands in the first bytes of a packet. -/
def headerOf (packet : Bytes) : FrameHeader where
  headerSize := packet.word16 6
  payloadSize := packet.word32 8
  width := packet.word16 12
  height := packet.word16 14
  frameNumber := packet.word32 20
  frameType := .ofRaw (UInt8.ofNat (packet.field 30 1))

/-- Where the payload ends that the header of a packet declares. -/
def declaredEnd (packet : Bytes) : Nat :=
  (headerOf packet).headerSize.toNat + (headerOf packet).payloadSize.toNat

/-- A packet with the signature that has all that its header declares. -/
structure IsFramed (packet : Bytes) : Prop where
  signed : signature <+: packet
  long : leastHeaderSize ≤ packet.length
  headed : leastHeaderSize ≤ (headerOf packet).headerSize.toNat
  whole : declaredEnd packet ≤ packet.length

/-- The unit that a framed packet holds. -/
def unitOf (packet : Bytes) : VideoUnit :=
  .framed (headerOf packet)
    ((packet.drop (headerOf packet).headerSize.toNat).take (headerOf packet).payloadSize.toNat)

/-- Everything that dividing a packet can come to. -/
inductive ParseCase
    (packet : Bytes) :
    Except Fault VideoUnit → Prop where
  | raw
      (unsigned : ¬ signature <+: packet) :
      ParseCase packet (.ok (.raw packet))
  | framed
      (isFramed : IsFramed packet) :
      ParseCase packet (.ok (unitOf packet))
  | refused
      (signed : signature <+: packet)
      (unframed : ¬ IsFramed packet)
      (fault : Fault) :
      ParseCase packet (.error fault)

theorem parseCase (packet : Bytes) :
    ParseCase packet (parse packet) := by
  unfold parse
  by_cases signed : signature <+: packet
  · rw [if_pos (List.isPrefixOf_iff_prefix.mpr signed)]
    by_cases short : packet.length < leastHeaderSize
    · rw [if_pos short]
      exact .refused signed (fun framed => Nat.not_le.mpr short framed.long) _
    · rw [if_neg short]
      dsimp only
      by_cases small : (packet.word16 6).toNat < leastHeaderSize
      · rw [if_pos small]
        exact .refused signed (fun framed => Nat.not_le.mpr small framed.headed) _
      · rw [if_neg small]
        by_cases overrun : packet.length < (packet.word16 6).toNat + (packet.word32 8).toNat
        · rw [if_pos overrun]
          exact .refused signed (fun framed => Nat.not_le.mpr overrun framed.whole) _
        · rw [if_neg overrun]
          exact .framed ⟨signed, Nat.le_of_not_lt short, Nat.le_of_not_lt small,
            Nat.le_of_not_lt overrun⟩
  · rw [if_neg (fun found => signed (List.isPrefixOf_iff_prefix.mp found))]
    exact .raw signed

/-- A framed packet is read as the unit that its header declares. -/
theorem parse_of_isFramed
    {packet : Bytes}
    (isFramed : IsFramed packet) :
    parse packet = .ok (unitOf packet) := by
  have divided := parseCase packet
  generalize parse packet = result at divided
  cases divided with
  | raw unsigned => exact absurd isFramed.signed unsigned
  | framed => rfl
  | refused signed unframed => exact absurd isFramed unframed

/-- A packet without the signature is its own unit. -/
theorem parse_of_unsigned
    {packet : Bytes}
    (unsigned : ¬ signature <+: packet) :
    parse packet = .ok (.raw packet) := by
  have divided := parseCase packet
  generalize parse packet = result at divided
  cases divided with
  | raw => rfl
  | framed isFramed => exact absurd isFramed.signed unsigned
  | refused signed => exact absurd signed unsigned

/-- A packet with the signature that lacks something is refused. -/
theorem exists_parse_of_unframed
    {packet : Bytes}
    (signed : signature <+: packet)
    (unframed : ¬ IsFramed packet) :
    ∃ fault, parse packet = .error fault := by
  have divided := parseCase packet
  generalize parse packet = result at divided
  cases divided with
  | raw unsigned => exact absurd signed unsigned
  | framed isFramed => exact absurd isFramed unframed
  | refused _ _ fault => exact ⟨fault, rfl⟩

/-- Packets are refused as malformed. -/
theorem Fault.exists_toError_eq (fault : Fault) :
    ∃ context details, fault.toError = .malformedPacket context details := by
  cases fault <;> exact ⟨_, _, rfl⟩

/-! ## Reads inside the packet -/

/-- A byte of a packet, if the packet reaches that far. -/
def byte? (packet : Bytes) (offset : Nat) : Option UInt8 :=
  (packet.field? offset 1).map UInt8.ofNat

/-- A half word of a packet, if the packet reaches that far. -/
def word16? (packet : Bytes) (offset : Nat) : Option UInt16 :=
  (packet.field? offset 2).map UInt16.ofNat

/-- A word of a packet, if the packet reaches that far. -/
def word32? (packet : Bytes) (offset : Nat) : Option UInt32 :=
  (packet.field? offset 4).map UInt32.ofNat

/--
Divide a packet as `parse` does, but with reads that have no answer if they leave the packet.  The
whole has no answer as soon as one of its reads has none.
-/
def boundedParse? (packet : Bytes) : Option (Except Fault VideoUnit) :=
  if signature.isPrefixOf packet then
    if packet.length < leastHeaderSize then
      some (.error (.tooShort packet.length))
    else do
      let headerSize ← word16? packet 6
      let payloadSize ← word32? packet 8
      if headerSize.toNat < leastHeaderSize then
        some (.error (.headerTooSmall headerSize))
      else if packet.length < headerSize.toNat + payloadSize.toNat then
        some (.error (.payloadOverruns payloadSize headerSize packet.length))
      else
        let width ← word16? packet 12
        let height ← word16? packet 14
        let frameNumber ← word32? packet 20
        let frameType ← byte? packet 30
        let payload ← packet.slice? headerSize.toNat (headerSize.toNat + payloadSize.toNat)
        some
          (.ok
            (.framed
              { headerSize := headerSize
                payloadSize := payloadSize
                width := width
                height := height
                frameNumber := frameNumber
                frameType := .ofRaw frameType }
              payload))
  else
    some (.ok (.raw packet))

/-- The reads of a packet that has the least header, up to the end of that header. -/
structure Reaches (packet : Bytes) : Prop where
  byte : ∀ offset, offset + 1 ≤ leastHeaderSize →
    byte? packet offset = some (UInt8.ofNat (packet.field offset 1))
  word16 : ∀ offset, offset + 2 ≤ leastHeaderSize →
    word16? packet offset = some (packet.word16 offset)
  word32 : ∀ offset, offset + 4 ≤ leastHeaderSize →
    word32? packet offset = some (packet.word32 offset)

/-- A packet that is long enough has every field of a header. -/
theorem reaches_of_long
    {packet : Bytes}
    (long : leastHeaderSize ≤ packet.length) :
    Reaches packet where
  byte := by
    intro offset within
    rw [byte?, Bytes.field?_eq_some (Nat.le_trans within long), Option.map_some]
  word16 := by
    intro offset within
    rw [word16?, Bytes.field?_eq_some (Nat.le_trans within long), Option.map_some, Bytes.word16]
  word32 := by
    intro offset within
    rw [word32?, Bytes.field?_eq_some (Nat.le_trans within long), Option.map_some, Bytes.word32]

/-- No read leaves the packet. -/
theorem boundedParse?_eq (packet : Bytes) :
    boundedParse? packet = some (parse packet) := by
  unfold boundedParse? parse
  by_cases signed : signature.isPrefixOf packet = true
  · rw [if_pos signed, if_pos signed]
    by_cases short : packet.length < leastHeaderSize
    · rw [if_pos short, if_pos short]
    · rw [if_neg short, if_neg short]
      have reaches := reaches_of_long (Nat.le_of_not_lt short)
      simp only [reaches.word16 6 (by decide), reaches.word32 8 (by decide), Option.bind_eq_bind,
        Option.bind_some]
      by_cases small : (packet.word16 6).toNat < leastHeaderSize
      · rw [if_pos small, if_pos small]
      · rw [if_neg small, if_neg small]
        by_cases overrun : packet.length < (packet.word16 6).toNat + (packet.word32 8).toNat
        · rw [if_pos overrun, if_pos overrun]
        · rw [if_neg overrun, if_neg overrun]
          simp only [reaches.word16 12 (by decide), reaches.word16 14 (by decide),
            reaches.word32 20 (by decide), reaches.byte 30 (by decide),
            Bytes.slice?_eq_some (Nat.le_of_not_lt overrun), Option.bind_some]
  · rw [if_neg signed, if_neg signed]

/-! ## What was written -/

/-- The header that is read where another one was written in front of a payload. -/
def writtenHeader
    (header : FrameHeader)
    (payload : Bytes) :
    FrameHeader :=
  { header with
    headerSize := UInt16.ofNat writtenHeaderSize
    payloadSize := UInt32.ofNat payload.length
    frameType := .ofRaw header.frameType.raw }

theorem length_encode
    (header : FrameHeader)
    (payload : Bytes) :
    (encode header payload).length = writtenHeaderSize + payload.length := by
  simp only [encode, signature, writtenHeaderSize, Bytes.ofWord16, Bytes.ofWord32,
    List.length_append, List.length_cons, List.length_nil, Bytes.length_encode,
    List.length_replicate]

/-- Every field of a written header is found where it is looked for, and the payload behind them. -/
theorem headerOf_encode
    {payload : Bytes}
    (short : payload.length < UInt32.size)
    (header : FrameHeader)
    (trailing : Bytes) :
    headerOf (encode header payload ++ trailing) = writtenHeader header payload ∧
      (encode header payload ++ trailing).drop writtenHeaderSize = payload ++ trailing := by
  generalize written : encode header payload ++ trailing = packet
  rw [encode] at written
  simp only [List.append_assoc] at written
  -- Each position is reached from the one before by passing the field that stands there.
  have at0 := (List.drop_zero (l := packet)).trans written.symm
  have at4 : packet.drop 4 = _ := Bytes.drop_add_of_drop at0
  have at6 : packet.drop 6 = _ := Bytes.drop_add_of_drop at4
  have at8 : packet.drop 8 = _ := Bytes.drop_add_of_drop at6
  have at12 : packet.drop 12 = _ := Bytes.drop_add_of_drop at8
  have at14 : packet.drop 14 = _ := Bytes.drop_add_of_drop at12
  have at16 : packet.drop 16 = _ := Bytes.drop_add_of_drop at14
  have at18 : packet.drop 18 = _ := Bytes.drop_add_of_drop at16
  have at20 : packet.drop 20 = _ := Bytes.drop_add_of_drop at18
  have at24 : packet.drop 24 = _ := Bytes.drop_add_of_drop at20
  have at30 : packet.drop 30 = _ := Bytes.drop_add_of_drop at24
  have at31 : packet.drop 31 = _ := Bytes.drop_add_of_drop at30
  have at64 : packet.drop 64 = _ := Bytes.drop_add_of_drop at31
  have frameType : UInt8.ofNat (packet.field 30 1) = header.frameType.raw := by
    simp [Bytes.field, at30, Bytes.valueOf]
  refine ⟨?_, at64⟩
  rw [headerOf, Bytes.word16_of_drop at12, Bytes.word16_of_drop at14, Bytes.word32_of_drop at20,
    frameType, Bytes.word16, Bytes.field_of_drop (by decide) at6, Bytes.word32,
    Bytes.field_of_drop short at8, writtenHeader]

/-- A payload behind a written header comes back, whatever follows it. -/
theorem parse_encode_append
    {payload : Bytes}
    (short : payload.length < UInt32.size)
    (header : FrameHeader)
    (trailing : Bytes) :
    parse (encode header payload ++ trailing) =
      .ok (.framed (writtenHeader header payload) payload) := by
  obtain ⟨read, behind⟩ := headerOf_encode short header trailing
  have headerSize :
      (headerOf (encode header payload ++ trailing)).headerSize.toNat = writtenHeaderSize := by
    rw [read]
    rfl
  have payloadSize :
      (headerOf (encode header payload ++ trailing)).payloadSize.toNat = payload.length := by
    rw [read]
    exact UInt32.toNat_ofNat_of_lt' short
  have length : (encode header payload ++ trailing).length =
      writtenHeaderSize + payload.length + trailing.length := by
    rw [List.length_append, length_encode]
  have isFramed : IsFramed (encode header payload ++ trailing) := by
    refine ⟨?_, ?_, ?_, ?_⟩
    · simp only [encode, List.append_assoc]
      exact List.prefix_append _ _
    · rw [length]
      exact Nat.le_add_right_of_le (Nat.le_add_right_of_le (by decide))
    · rw [headerSize]
      decide
    · rw [declaredEnd, headerSize, payloadSize, length]
      exact Nat.le_add_right _ _
  rw [parse_of_isFramed isFramed, unitOf, headerSize, payloadSize, behind, List.take_left' rfl,
    read]

/-! ## The packets and their units -/

/-- What dividing a packet comes to, whatever its bytes are. -/
structure Divides (packet : Bytes) : Prop where
  /-- A packet without the signature is its own payload. -/
  raw : ∀ payload, parse packet = .ok (.raw payload) ↔ ¬ signature <+: packet ∧ payload = packet
  framed : (∃ header payload, parse packet = .ok (.framed header payload)) ↔ IsFramed packet
  /-- The payload of a framed packet lies between the two positions that its header declares. -/
  payload : ∀ header payload, parse packet = .ok (.framed header payload) →
    header = headerOf packet ∧
    packet.slice? (headerOf packet).headerSize.toNat (declaredEnd packet) = some payload
  /-- Every other packet is malformed. -/
  refused : (∃ context details, (parse packet).mapError Fault.toError =
      .error (.malformedPacket context details)) ↔
    signature <+: packet ∧ ¬ IsFramed packet
  /-- No read and no slice leaves the packet. -/
  inside : boundedParse? packet = some (parse packet)

/-- A packet without the signature divides into itself. -/
theorem divides_of_unsigned
    {packet : Bytes}
    (unsigned : ¬ signature <+: packet) :
    Divides packet := by
  have parsed := parse_of_unsigned unsigned
  refine ⟨?_, ?_, ?_, ?_, boundedParse?_eq packet⟩
  · intro payload
    rw [parsed]
    constructor
    · rintro ⟨⟩
      exact ⟨unsigned, rfl⟩
    · rintro ⟨-, rfl⟩
      rfl
  · rw [parsed]
    exact ⟨by simp, fun isFramed => absurd isFramed.signed unsigned⟩
  · rw [parsed]
    intro header payload same
    cases same
  · rw [parsed]
    constructor
    · rintro ⟨context, details, malformed⟩
      cases malformed
    · exact fun signed => absurd signed.1 unsigned

/-- A framed packet divides into its unit and what follows it. -/
theorem divides_of_isFramed
    {packet : Bytes}
    (isFramed : IsFramed packet) :
    Divides packet := by
  have parsed := parse_of_isFramed isFramed
  refine ⟨?_, ?_, ?_, ?_, boundedParse?_eq packet⟩
  · intro payload
    rw [parsed]
    exact ⟨by simp [unitOf], fun unsigned => absurd isFramed.signed unsigned.1⟩
  · exact ⟨fun _ => isFramed, fun _ => ⟨_, _, parsed⟩⟩
  · rw [parsed]
    rintro header payload ⟨⟩
    exact ⟨rfl, Bytes.slice?_eq_some isFramed.whole⟩
  · rw [parsed]
    constructor
    · rintro ⟨context, details, malformed⟩
      cases malformed
    · exact fun unframed => absurd isFramed unframed.2

/-- A packet with the signature that lacks something does not divide. -/
theorem divides_of_unframed
    {packet : Bytes}
    (signed : signature <+: packet)
    (unframed : ¬ IsFramed packet) :
    Divides packet := by
  obtain ⟨fault, parsed⟩ := exists_parse_of_unframed signed unframed
  refine ⟨?_, ?_, ?_, ?_, boundedParse?_eq packet⟩
  · intro payload
    rw [parsed]
    exact ⟨by simp, fun unsigned => absurd signed unsigned.1⟩
  · rw [parsed]
    exact ⟨by simp, fun isFramed => absurd isFramed unframed⟩
  · rw [parsed]
    intro header payload same
    cases same
  · rw [parsed]
    refine ⟨fun _ => ⟨signed, unframed⟩, fun _ => ?_⟩
    obtain ⟨context, details, malformed⟩ := fault.exists_toError_eq
    exact ⟨context, details, congrArg Except.error malformed⟩

/-- Every packet divides in one of the ways that are listed. -/
theorem divides (packet : Bytes) : Divides packet := by
  by_cases signed : signature <+: packet
  · by_cases isFramed : IsFramed packet
    · exact divides_of_isFramed isFramed
    · exact divides_of_unframed signed isFramed
  · exact divides_of_unsigned signed

/--
A payload behind a written header is read with everything that the header says of the picture.
-/
structure Unwraps
    (header : FrameHeader)
    (payload trailing : Bytes)
    (found : FrameHeader) :
    Prop where
  parsed : parse (encode header payload ++ trailing) = .ok (.framed found payload)
  width : found.width = header.width
  height : found.height = header.height
  frameNumber : found.frameNumber = header.frameNumber
  frameType : found.frameType.raw = header.frameType.raw
  headerSize : found.headerSize.toNat = 64
  payloadSize : found.payloadSize.toNat = payload.length

/-- A payload behind a written header comes back with the header, whatever follows it. -/
theorem unwraps_encode
    {payload : Bytes}
    (short : payload.length < UInt32.size)
    (header : FrameHeader)
    (trailing : Bytes) :
    Unwraps header payload trailing (writtenHeader header payload) where
  parsed := parse_encode_append short header trailing
  width := rfl
  height := rfl
  frameNumber := rfl
  frameType := FrameType.raw_ofRaw header.frameType.raw
  headerSize := rfl
  payloadSize := UInt32.toNat_ofNat_of_lt' short

/--
What was framed is read back whatever follows it, and any bytes are divided by their signature and
by the two sizes that they declare.
-/
theorem payload_is_framed
    {payload : Bytes}
    (short : payload.length < UInt32.size)
    (header : FrameHeader)
    (trailing packet : Bytes) :
    (∃ found, Unwraps header payload trailing found) ∧ Divides packet :=
  ⟨⟨_, unwraps_encode short header trailing⟩, divides packet⟩

/-- The header of a picture whose type has the byte of a keyframe and says that it is unknown. -/
def mislabelledHeader : FrameHeader where
  headerSize := 0
  payloadSize := 0
  width := 640
  height := 360
  frameNumber := 12
  frameType := .unknown 1

/-- A header that is mislabelled, a payload that begins like a header, and a byte behind both. -/
theorem mislabelled_picture_is_framed :
    signature.length < UInt32.size ∧
    (∃ found, parse (encode mislabelledHeader signature ++ [7]) = .ok (.framed found signature) ∧
      found.frameType.raw = 1) ∧
    ¬ IsFramed signature ∧
    ∃ context details, (parse signature).mapError Fault.toError =
      .error (.malformedPacket context details) := by
  have short : signature.length < UInt32.size := by
    decide
  have unframed : ¬ IsFramed signature := fun isFramed => absurd isFramed.long (by decide)
  obtain ⟨⟨found, unwraps⟩, divided⟩ :=
    payload_is_framed short mislabelledHeader [7] signature
  exact ⟨short, ⟨found, unwraps.parsed, unwraps.frameType⟩, unframed,
    divided.refused.mpr ⟨List.prefix_refl signature, unframed⟩⟩

end Framing

end DroneSession
