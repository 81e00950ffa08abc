import DroneSession.Proofs.Telemetry.Grammar

namespace DroneSession

/-!
# The option loop of the decoder

The decoder is written here once more as a loop that nothing keeps inside the packet: every read may
run short, every slice may leave the packet, and nothing says that the rounds come to an end.  A
round that finds an option moves forward behind it, so there are at most as many rounds as option
headers fit behind the header of the packet, and what they come to is what the decoder answers.
-/

namespace Wire

/-- What a field belongs to. -/
inductive Place where
  | header
  | optionHeader
  | demo
  | checksum
  deriving Repr, DecidableEq

/-- What stops a decoder that checks each of its accesses. -/
inductive Halt where
  /-- A field reaches behind the end of the bytes that it is read from. -/
  | shortRead (place : Place) (what : String) (offset length : Nat)
  /-- The bounds of a slice are out of order or leave the packet. -/
  | outside (start stop length : Nat)
  | refused (fault : Fault)
  deriving DecidableEq

namespace Halt

/--
The failure that a halt raises; a slice outside of the packet raises none and ends the program.
-/
def error? : Halt → Option SessionError
  | .shortRead _ what offset length =>
      some (.malformedPacket "navdata field"
        ("no room for " ++ what ++ " at offset " ++ toString offset
          ++ " in " ++ toString length ++ " bytes"))
  | .outside .. => none
  | .refused fault => some fault.toError

/--
A checksum that is too short is where a read runs short; all other faults are found by guards.
-/
def ofFault : Fault → Halt
  | .checksumTooShort length => .shortRead .checksum "u32" 0 length
  | fault => .refused fault

/-- A fault of the decoder raises its own failure. -/
theorem error?_ofFault (fault : Fault) :
    (ofFault fault).error? = some fault.toError := by
  cases fault <;> rfl

/-- No fault of the decoder comes from leaving the packet. -/
theorem ofFault_ne_outside
    (fault : Fault)
    (start stop length : Nat) :
    ofFault fault ≠ .outside start stop length := by
  cases fault <;> simp [ofFault]

/-- Of the faults of the decoder only that of a short checksum is a read that runs short. -/
theorem ofFault_eq_shortRead_iff
    {fault : Fault}
    {place : Place}
    {what : String}
    {offset length : Nat} :
    ofFault fault = .shortRead place what offset length ↔
      fault = .checksumTooShort length ∧ place = .checksum ∧ what = "u32" ∧ offset = 0 := by
  cases fault with
  | checksumTooShort given =>
      simp only [ofFault, shortRead.injEq, Fault.checksumTooShort.injEq]
      constructor
      · rintro ⟨rfl, rfl, rfl, rfl⟩
        exact ⟨rfl, rfl, rfl, rfl⟩
      · rintro ⟨rfl, rfl, rfl, rfl⟩
        exact ⟨rfl, rfl, rfl, rfl⟩
  | _ =>
      simp [ofFault]

end Halt

/-! ## Checked accesses -/

/-- Read a half word, if there is one. -/
def readWord16
    (place : Place)
    (bytes : Bytes)
    (offset : Nat) :
    Except Halt UInt16 :=
  match bytes.field? offset 2 with
  | none => .error (.shortRead place "u16" offset bytes.length)
  | some field => .ok (UInt16.ofNat field)

/-- Read a word, if there is one. -/
def readWord32
    (place : Place)
    (bytes : Bytes)
    (offset : Nat) :
    Except Halt UInt32 :=
  match bytes.field? offset 4 with
  | none => .error (.shortRead place "u32" offset bytes.length)
  | some field => .ok (UInt32.ofNat field)

/-- The bytes from one position to another. -/
def slice
    (bytes : Bytes)
    (start stop : Nat) :
    Except Halt Bytes :=
  match bytes.slice? start stop with
  | none => .error (.outside start stop bytes.length)
  | some part => .ok part

/-- A half word inside of some bytes is read. -/
theorem readWord16_eq_ok
    {bytes : Bytes}
    {offset : Nat}
    (inside : offset + 2 ≤ bytes.length)
    (place : Place) :
    readWord16 place bytes offset = .ok (bytes.word16 offset) := by
  rw [readWord16, Bytes.field?_eq_some inside, Bytes.word16]

/-- A word inside of some bytes is read. -/
theorem readWord32_eq_ok
    {bytes : Bytes}
    {offset : Nat}
    (inside : offset + 4 ≤ bytes.length)
    (place : Place) :
    readWord32 place bytes offset = .ok (bytes.word32 offset) := by
  rw [readWord32, Bytes.field?_eq_some inside, Bytes.word32]

/-- A slice inside of some bytes is cut out. -/
theorem slice_eq_ok
    {bytes : Bytes}
    {start count : Nat}
    (inside : start + count ≤ bytes.length) :
    slice bytes start (start + count) = .ok ((bytes.drop start).take count) := by
  rw [slice, Bytes.slice?_eq_some inside]

/-! ## The decoder as a loop -/

/-- The words of the header behind its first one. -/
structure Header where
  status : UInt32
  sequence : UInt32
  visionDefined : UInt32

/-- Read the header, word by word. -/
def readHeader (packet : Bytes) : Except Halt Header :=
  if packet.length < leastSize then
    .error (.refused (.tooShort packet.length))
  else do
    let first ← readWord32 .header packet 0
    if first ≠ magic then
      .error (.refused (.badMagic first))
    else
      let status ← readWord32 .header packet 4
      let sequence ← readWord32 .header packet 8
      let visionDefined ← readWord32 .header packet 12
      return ⟨status, sequence, visionDefined⟩

/-- Read a demo option, word by word. -/
def readDemo (payload : Bytes) : Except Halt Demo :=
  if payload.length < demoSize then
    .error (.refused (.demoTooShort payload.length))
  else do
    let control ← readWord32 .demo payload 0
    let battery ← readWord32 .demo payload 4
    let theta ← readWord32 .demo payload 8
    let phi ← readWord32 .demo payload 12
    let psi ← readWord32 .demo payload 16
    let altitude ← readWord32 .demo payload 20
    let vx ← readWord32 .demo payload 24
    let vy ← readWord32 .demo payload 28
    let vz ← readWord32 .demo payload 32
    let frameIndex ← readWord32 .demo payload 36
    return { control := .ofWord control
             battery := battery
             theta := ⟨theta⟩
             phi := ⟨phi⟩
             psi := ⟨psi⟩
             altitude := altitude.toInt32
             vx := ⟨vx⟩
             vy := ⟨vy⟩
             vz := ⟨vz⟩
             frameIndex := frameIndex }

/-- The tag of the option at an offset and the position at which the option ends. -/
def declaration
    (packet : Bytes)
    (offset : Nat) :
    Except Halt (UInt16 × Nat) := do
  let tag ← readWord16 .optionHeader packet offset
  let size ← readWord16 .optionHeader packet (offset + 2)
  if size.toNat < optionHeaderSize then
    .error (.refused (.optionTooSmall tag offset size.toNat))
  else if packet.length < offset + size.toNat then
    .error (.refused (.optionOverruns tag offset packet.length))
  else
    return (tag, offset + size.toNat)

/-- Compare the checksum in a payload with the sum of the bytes from the first up to an offset. -/
def certify
    (packet payload : Bytes)
    (offset : Nat) :
    Except Halt Unit := do
  let expected ← readWord32 .checksum payload 0
  let before ← slice packet 0 offset
  if expected = before.sum then
    return ()
  else
    .error (.refused (.checksumMismatch expected before.sum))

/-- Where the next round starts, and the last demo option so far. -/
structure Cursor where
  offset : Nat
  demo : Option Demo

/-- Whether the next round takes place: there is room for one more option header. -/
def Cursor.HasRoom
    (cursor : Cursor)
    (packet : Bytes) :
    Prop :=
  cursor.offset + optionHeaderSize ≤ packet.length

/-- The cursor in front of the first option. -/
def Cursor.first : Cursor where
  offset := headerSize
  demo := none

/-- What a round comes to if nothing halts it. -/
inductive Turn where
  | goesOn (next : Cursor)
  /-- The checksum was right. -/
  | stops

/-- One round of the loop. -/
def turn
    (packet : Bytes)
    (cursor : Cursor) :
    Except Halt Turn := do
  let (tag, finish) ← declaration packet cursor.offset
  let payload ← slice packet (cursor.offset + optionHeaderSize) finish
  if tag = demoTag then
    let demo ← readDemo payload
    return .goesOn ⟨finish, some demo⟩
  else if tag = checksumTag then
    certify packet payload cursor.offset
    return .stops
  else
    return .goesOn ⟨finish, cursor.demo⟩

/-- What the loop comes to from a cursor on, and in how many rounds. -/
inductive Loops (packet : Bytes) : Cursor → Nat → Except Halt (Option Demo) → Prop where
  | exhausted {cursor : Cursor}
      (full : ¬ cursor.HasRoom packet) :
      Loops packet cursor 0 (.ok cursor.demo)
  | halted {cursor : Cursor} {halt : Halt}
      (room : cursor.HasRoom packet)
      (turned : turn packet cursor = .error halt) :
      Loops packet cursor 1 (.error halt)
  | stopped {cursor : Cursor}
      (room : cursor.HasRoom packet)
      (turned : turn packet cursor = .ok .stops) :
      Loops packet cursor 1 (.ok cursor.demo)
  | goesOn {cursor next : Cursor} {rounds : Nat} {result : Except Halt (Option Demo)}
      (room : cursor.HasRoom packet)
      (turned : turn packet cursor = .ok (.goesOn next))
      (others : Loops packet next rounds result) :
      Loops packet cursor (rounds + 1) result

/-- The record of a packet whose options were read. -/
def Header.complete
    (header : Header) :
    Option Demo → Except Halt NavigationRecord
  | none => .error (.refused .demoMissing)
  | some demo =>
      .ok
        { status := ⟨header.status⟩
          sequence := header.sequence
          visionDefined := header.visionDefined
          control := demo.control
          battery := demo.battery
          theta := demo.theta
          phi := demo.phi
          psi := demo.psi
          altitude := demo.altitude
          vx := demo.vx
          vy := demo.vy
          vz := demo.vz
          frameIndex := demo.frameIndex }

/-- What decoding comes to, and in how many rounds of the loop. -/
inductive Scans (packet : Bytes) : Nat → Except Halt NavigationRecord → Prop where
  | refused {halt : Halt}
      (read : readHeader packet = .error halt) :
      Scans packet 0 (.error halt)
  | looped {header : Header} {rounds : Nat} {result : Except Halt (Option Demo)}
      (read : readHeader packet = .ok header)
      (loops : Loops packet .first rounds result) :
      Scans packet rounds (result.bind header.complete)

/-- The cursor in front of a round of decoding a packet, and how many rounds came before it. -/
inductive Reaches (packet : Bytes) : Nat → Cursor → Prop where
  | start {header : Header}
      (read : readHeader packet = .ok header) :
      Reaches packet 0 .first
  | next {rounds : Nat} {cursor next : Cursor}
      (before : Reaches packet rounds cursor)
      (room : cursor.HasRoom packet)
      (turned : turn packet cursor = .ok (.goesOn next)) :
      Reaches packet (rounds + 1) next

/-! ## One round -/

/-- The reads of a payload that is long enough for a demo all answer. -/
theorem readDemo_eq (payload : Bytes) :
    readDemo payload = (Demo.ofPayload payload).mapError .ofFault := by
  unfold readDemo Demo.ofPayload
  by_cases short : payload.length < demoSize
  · rw [if_pos short, if_pos short]
    rfl
  · rw [if_neg short, if_neg short]
    have reads (offset : Nat) (inside : offset + 4 ≤ demoSize) :
        readWord32 .demo payload offset = .ok (payload.word32 offset) :=
      readWord32_eq_ok (Nat.le_trans inside (Nat.le_of_not_lt short)) .demo
    simp only [reads 0 (by decide), reads 4 (by decide), reads 8 (by decide),
      reads 12 (by decide), reads 16 (by decide), reads 20 (by decide), reads 24 (by decide),
      reads 28 (by decide), reads 32 (by decide), reads 36 (by decide)]
    rfl

/-- The header of a packet of the least size is read whole. -/
theorem readHeader_eq (packet : Bytes) :
    readHeader packet =
      if packet.length < leastSize then
        .error (.refused (.tooShort packet.length))
      else if packet.word32 0 ≠ magic then
        .error (.refused (.badMagic (packet.word32 0)))
      else
        .ok ⟨packet.word32 4, packet.word32 8, packet.word32 12⟩ := by
  unfold readHeader
  by_cases short : packet.length < leastSize
  · rw [if_pos short, if_pos short]
  · rw [if_neg short, if_neg short]
    have reads (offset : Nat) (inside : offset + 4 ≤ leastSize) :
        readWord32 .header packet offset = .ok (packet.word32 offset) :=
      readWord32_eq_ok (Nat.le_trans inside (Nat.le_of_not_lt short)) .header
    simp only [reads 0 (by decide), reads 4 (by decide), reads 8 (by decide),
      reads 12 (by decide)]
    rfl

/-- With room for its header, an option declares itself as the decoder finds it. -/
theorem declaration_eq
    {packet : Bytes}
    {offset : Nat}
    (room : offset + optionHeaderSize ≤ packet.length) :
    declaration packet offset =
      match optionAt? packet offset with
      | .error fault => .error (.ofFault fault)
      | .ok none => .ok (packet.word16 offset, offset)
      | .ok (some item) => .ok (item.tag, item.finish) := by
  simp only [optionHeaderSize] at room
  have tagRead : readWord16 .optionHeader packet offset = .ok (packet.word16 offset) :=
    readWord16_eq_ok (by omega) .optionHeader
  have sizeRead :
      readWord16 .optionHeader packet (offset + 2) = .ok (packet.word16 (offset + 2)) :=
    readWord16_eq_ok (by omega) .optionHeader
  unfold declaration optionAt?
  rw [tagRead, sizeRead, if_pos (by simpa only [optionHeaderSize] using room)]
  by_cases small : (packet.word16 (offset + 2)).toNat < optionHeaderSize
  · simp only [bind, Except.bind, if_pos small, Halt.ofFault]
  · by_cases overrun : packet.length < offset + (packet.word16 (offset + 2)).toNat
    · simp only [bind, Except.bind, if_neg small, if_pos overrun, Halt.ofFault]
    · simp only [bind, Except.bind, if_neg small, if_neg overrun]
      rfl

/-- The payload of an option lies between the header of the option and its end. -/
theorem slice_of_optionAt?
    {packet : Bytes}
    {offset : Nat}
    {item : PacketOption}
    (found : optionAt? packet offset = .ok (some item)) :
    slice packet (offset + optionHeaderSize) item.finish = .ok item.payload := by
  obtain ⟨located, sized, passed, written⟩ := optionAt?_sound found
  have inside := (optionAt?_bounds found).2
  rw [drop_eq_bytes_append_iff sized] at written
  obtain ⟨-, -, -, payload, -⟩ := written
  rw [Block.length_bytes, ← Nat.add_assoc] at passed
  rw [passed] at inside
  rw [passed, slice_eq_ok inside, payload, PacketOption.block]

/-- The checksum is compared with the sum of the bytes in front of its option. -/
theorem certify_eq
    {packet : Bytes}
    {item : PacketOption}
    (inside : item.offset ≤ packet.length) :
    certify packet item.payload item.offset = (verify packet item).mapError .ofFault := by
  have before : slice packet 0 item.offset = .ok (packet.take item.offset) := by
    have sliced :
        slice packet 0 (0 + item.offset) = .ok ((packet.drop 0).take item.offset) :=
      slice_eq_ok (by omega)
    rwa [Nat.zero_add, List.drop_zero] at sliced
  unfold certify verify readWord32
  rw [before]
  cases item.payload.field? 0 4 with
  | none => rfl
  | some field =>
      simp only [bind, Except.bind]
      split <;> rfl

/-- Everything that a round with room for an option header can come to. -/
inductive TurnCase (packet : Bytes) (cursor : Cursor) : Except Halt Turn → Prop where
  | unfound (fault : Fault)
      (found : optionAt? packet cursor.offset = .error fault) :
      TurnCase packet cursor (.error (.ofFault fault))
  | demo (item : PacketOption) (newest : Demo)
      (found : optionAt? packet cursor.offset = .ok (some item))
      (isDemo : item.tag = demoTag)
      (read : Demo.ofPayload item.payload = .ok newest) :
      TurnCase packet cursor (.ok (.goesOn ⟨item.finish, some newest⟩))
  | unreadable (item : PacketOption) (fault : Fault)
      (found : optionAt? packet cursor.offset = .ok (some item))
      (isDemo : item.tag = demoTag)
      (read : Demo.ofPayload item.payload = .error fault) :
      TurnCase packet cursor (.error (.ofFault fault))
  | certified (item : PacketOption)
      (found : optionAt? packet cursor.offset = .ok (some item))
      (isChecksum : item.tag = checksumTag)
      (verified : verify packet item = .ok ()) :
      TurnCase packet cursor (.ok .stops)
  | uncertified (item : PacketOption) (fault : Fault)
      (found : optionAt? packet cursor.offset = .ok (some item))
      (isChecksum : item.tag = checksumTag)
      (verified : verify packet item = .error fault) :
      TurnCase packet cursor (.error (.ofFault fault))
  | skipped (item : PacketOption)
      (found : optionAt? packet cursor.offset = .ok (some item))
      (notDemo : item.tag ≠ demoTag)
      (notChecksum : item.tag ≠ checksumTag) :
      TurnCase packet cursor (.ok (.goesOn ⟨item.finish, cursor.demo⟩))

/-- A round that finds an option goes on behind it, unless the option is a checksum. -/
theorem turn_of_optionAt?
    {packet : Bytes}
    {cursor : Cursor}
    {item : PacketOption}
    (found : optionAt? packet cursor.offset = .ok (some item)) :
    turn packet cursor =
      if item.tag = demoTag then
        ((Demo.ofPayload item.payload).mapError .ofFault).map fun demo =>
          .goesOn ⟨item.finish, some demo⟩
      else if item.tag = checksumTag then
        ((verify packet item).mapError .ofFault).map fun _ => .stops
      else
        .ok (.goesOn ⟨item.finish, cursor.demo⟩) := by
  have bounds := optionAt?_bounds found
  have room : cursor.offset + optionHeaderSize ≤ packet.length := by
    omega
  have located : item.offset = cursor.offset := (optionAt?_sound found).1
  have certified :
      certify packet item.payload item.offset = (verify packet item).mapError .ofFault :=
    certify_eq (by omega)
  rw [located] at certified
  unfold turn
  rw [declaration_eq room, found]
  simp only [bind, Except.bind, slice_of_optionAt? found, readDemo_eq, certified]
  split
  · cases Demo.ofPayload item.payload <;> rfl
  · split
    · cases verify packet item <;> rfl
    · rfl

theorem turnCase
    {packet : Bytes}
    {cursor : Cursor}
    (room : cursor.HasRoom packet) :
    TurnCase packet cursor (turn packet cursor) := by
  cases found : optionAt? packet cursor.offset with
  | error fault =>
      have turned : turn packet cursor = .error (.ofFault fault) := by
        unfold turn
        rw [declaration_eq room, found]
        rfl
      rw [turned]
      exact .unfound fault found
  | ok item? =>
      cases item? with
      | none =>
          rw [optionAt?_eq_none_iff] at found
          exact absurd room (Nat.not_le.mpr found)
      | some item =>
          rw [turn_of_optionAt? found]
          by_cases isDemo : item.tag = demoTag
          · rw [if_pos isDemo]
            cases read : Demo.ofPayload item.payload with
            | error fault => exact .unreadable item fault found isDemo read
            | ok newest => exact .demo item newest found isDemo read
          · rw [if_neg isDemo]
            by_cases isChecksum : item.tag = checksumTag
            · rw [if_pos isChecksum]
              cases verified : verify packet item with
              | error fault => exact .uncertified item fault found isChecksum verified
              | ok => exact .certified item found isChecksum verified
            · rw [if_neg isChecksum]
              exact .skipped item found isDemo isChecksum

/-- A round that goes on moves forward by an option header at least and stays in the packet. -/
theorem offset_of_goesOn
    {packet : Bytes}
    {cursor next : Cursor}
    (room : cursor.HasRoom packet)
    (turned : turn packet cursor = .ok (.goesOn next)) :
    cursor.offset + optionHeaderSize ≤ next.offset ∧ next.offset ≤ packet.length := by
  have round := turnCase room
  rw [turned] at round
  cases round with
  | demo item newest found => exact optionAt?_bounds found
  | skipped item found => exact optionAt?_bounds found

/-! ## The whole loop -/

/-- Each round takes at least the header of an option. -/
theorem Loops.rounds_le
    {packet : Bytes}
    {cursor : Cursor}
    {rounds : Nat}
    {result : Except Halt (Option Demo)}
    (loops : Loops packet cursor rounds result)
    (inside : cursor.offset ≤ packet.length) :
    cursor.offset + optionHeaderSize * rounds ≤ packet.length := by
  induction loops with
  | exhausted =>
      exact inside
  | halted room | stopped room =>
      exact room
  | goesOn room turned _ inductionHypothesis =>
      have forward := offset_of_goesOn room turned
      have others := inductionHypothesis forward.2
      simp only [optionHeaderSize] at *
      omega

/-- The loop comes to one thing only. -/
theorem Loops.unique
    {packet : Bytes}
    {cursor : Cursor}
    {rounds other : Nat}
    {result answer : Except Halt (Option Demo)}
    (loops : Loops packet cursor rounds result)
    (again : Loops packet cursor other answer) :
    rounds = other ∧ result = answer := by
  induction loops generalizing other answer with
  | exhausted full =>
      cases again with
      | exhausted => exact ⟨rfl, rfl⟩
      | halted room | stopped room | goesOn room => exact absurd room full
  | halted room turned =>
      cases again with
      | exhausted full => exact absurd room full
      | halted _ turnedAgain =>
          rw [turned] at turnedAgain
          exact ⟨rfl, congrArg Except.error (Except.error.inj turnedAgain)⟩
      | stopped _ turnedAgain | goesOn _ turnedAgain =>
          rw [turned] at turnedAgain
          cases turnedAgain
  | stopped room turned =>
      cases again with
      | exhausted full => exact absurd room full
      | stopped => exact ⟨rfl, rfl⟩
      | halted _ turnedAgain | goesOn _ turnedAgain =>
          rw [turned] at turnedAgain
          cases turnedAgain
  | goesOn room turned _ inductionHypothesis =>
      cases again with
      | exhausted full => exact absurd room full
      | halted _ turnedAgain | stopped _ turnedAgain =>
          rw [turned] at turnedAgain
          cases turnedAgain
      | goesOn _ turnedAgain others =>
          rw [turned] at turnedAgain
          cases turnedAgain
          obtain ⟨rfl, rfl⟩ := inductionHypothesis others
          exact ⟨rfl, rfl⟩

/-- The loop ends, and with what the decoder reads from the same offset on. -/
theorem exists_loops
    (packet : Bytes)
    (offset : Nat)
    (known : Option Demo) :
    ∃ rounds,
      Loops packet ⟨offset, known⟩ rounds ((readOptions packet offset known).mapError .ofFault) := by
  -- The recursion of the decoder is the sequence of rounds.
  fun_induction readOptions packet offset known with
  | case1 offset known fault found =>
      by_cases room : offset + optionHeaderSize ≤ packet.length
      · refine ⟨1, .halted room ?_⟩
        unfold turn
        rw [declaration_eq room, found]
        rfl
      · rw [optionAt?_eq_none_iff.mpr (Nat.lt_of_not_le room)] at found
        cases found
  | case2 offset known short =>
      rw [optionAt?_eq_none_iff] at short
      exact ⟨0, .exhausted (Nat.not_le.mpr short)⟩
  | case3 offset known item found isDemo fault read =>
      have room := Nat.le_trans (optionAt?_bounds found).1 (optionAt?_bounds found).2
      refine ⟨1, .halted room ?_⟩
      rw [turn_of_optionAt? found, if_pos isDemo, read]
      rfl
  | case4 offset known item found isDemo newest read inductionHypothesis =>
      have room := Nat.le_trans (optionAt?_bounds found).1 (optionAt?_bounds found).2
      obtain ⟨rounds, others⟩ := inductionHypothesis
      refine ⟨rounds + 1, .goesOn room ?_ others⟩
      rw [turn_of_optionAt? found, if_pos isDemo, read]
      rfl
  | case5 offset known item found notDemo isChecksum fault verified =>
      have room := Nat.le_trans (optionAt?_bounds found).1 (optionAt?_bounds found).2
      refine ⟨1, .halted room ?_⟩
      rw [turn_of_optionAt? found, if_neg notDemo, if_pos isChecksum, verified]
      rfl
  | case6 offset known item found notDemo isChecksum verified =>
      have room := Nat.le_trans (optionAt?_bounds found).1 (optionAt?_bounds found).2
      refine ⟨1, .stopped room ?_⟩
      rw [turn_of_optionAt? found, if_neg notDemo, if_pos isChecksum, verified]
      rfl
  | case7 offset known item found notDemo notChecksum inductionHypothesis =>
      have room := Nat.le_trans (optionAt?_bounds found).1 (optionAt?_bounds found).2
      obtain ⟨rounds, others⟩ := inductionHypothesis
      refine ⟨rounds + 1, .goesOn room ?_ others⟩
      rw [turn_of_optionAt? found, if_neg notDemo, if_neg notChecksum]

/-- Decoding ends, and with what the decoder answers. -/
theorem exists_scans (packet : Bytes) :
    ∃ rounds, Scans packet rounds ((decode packet).mapError .ofFault) := by
  have read := readHeader_eq packet
  unfold decode
  by_cases short : packet.length < leastSize
  · rw [if_pos short] at read ⊢
    exact ⟨0, .refused read⟩
  · rw [if_neg short] at read ⊢
    by_cases foreign : packet.word32 0 ≠ magic
    · rw [if_pos foreign] at read ⊢
      exact ⟨0, .refused read⟩
    · rw [if_neg foreign] at read ⊢
      obtain ⟨rounds, loops⟩ := exists_loops packet headerSize none
      have scans := Scans.looped read loops
      refine ⟨rounds, ?_⟩
      cases options : readOptions packet headerSize none with
      | error fault =>
          rw [options] at scans
          exact scans
      | ok demo? =>
          rw [options] at scans
          cases demo? <;> exact scans

/-- Decoding comes to one result, and in one number of rounds. -/
theorem Scans.unique
    {packet : Bytes}
    {rounds other : Nat}
    {result answer : Except Halt NavigationRecord}
    (scans : Scans packet rounds result)
    (again : Scans packet other answer) :
    rounds = other ∧ result = answer := by
  cases scans with
  | refused read =>
      cases again with
      | refused readAgain =>
          rw [read] at readAgain
          exact ⟨rfl, congrArg Except.error (Except.error.inj readAgain)⟩
      | looped readAgain =>
          rw [read] at readAgain
          cases readAgain
  | looped read loops =>
      cases again with
      | refused readAgain =>
          rw [read] at readAgain
          cases readAgain
      | looped readAgain loopsAgain =>
          rw [read] at readAgain
          cases readAgain
          obtain ⟨rfl, rfl⟩ := loops.unique loopsAgain
          exact ⟨rfl, rfl⟩

/-- The loop comes to the result of the decoder and to no other. -/
theorem scans_iff
    {packet : Bytes}
    {result : Except Halt NavigationRecord} :
    (∃ rounds, Scans packet rounds result) ↔ result = (decode packet).mapError .ofFault := by
  obtain ⟨rounds, scans⟩ := exists_scans packet
  constructor
  · rintro ⟨other, again⟩
    exact (again.unique scans).2
  · rintro rfl
    exact ⟨rounds, scans⟩

/-- A packet whose header was read has the least size. -/
theorem leastSize_le_of_readHeader
    {packet : Bytes}
    {header : Header}
    (read : readHeader packet = .ok header) :
    leastSize ≤ packet.length := by
  rw [readHeader_eq] at read
  split at read
  · cases read
  · omega

/-- A packet whose header was read has room for it. -/
theorem headerSize_le_of_readHeader
    {packet : Bytes}
    {header : Header}
    (read : readHeader packet = .ok header) :
    headerSize ≤ packet.length :=
  Nat.le_trans (by decide) (leastSize_le_of_readHeader read)

/-- There are no more rounds than a packet has room for option headers. -/
theorem Scans.rounds_le
    {packet : Bytes}
    {rounds : Nat}
    {result : Except Halt NavigationRecord}
    (scans : Scans packet rounds result) :
    rounds ≤ (packet.length - headerSize) / optionHeaderSize := by
  cases scans with
  | refused => exact Nat.zero_le _
  | looped read loops =>
      have bound := loops.rounds_le (headerSize_le_of_readHeader read)
      simp only [Cursor.first, optionHeaderSize] at *
      omega

/-! ## The rounds of a packet -/

/-- A round starts behind all the rounds before it, and inside of the packet. -/
theorem Reaches.bounds
    {packet : Bytes}
    {rounds : Nat}
    {cursor : Cursor}
    (reaches : Reaches packet rounds cursor) :
    headerSize + optionHeaderSize * rounds ≤ cursor.offset ∧ cursor.offset ≤ packet.length := by
  induction reaches with
  | start read =>
      exact ⟨Nat.le_refl _, headerSize_le_of_readHeader read⟩
  | next _ room turned inductionHypothesis =>
      have forward := offset_of_goesOn room turned
      refine ⟨?_, forward.2⟩
      simp only [optionHeaderSize] at *
      omega

/-- The rounds before a cursor and the rounds from it on are the rounds of the packet. -/
theorem Reaches.exists_loops
    {packet : Bytes}
    {rounds later : Nat}
    {cursor : Cursor}
    {result : Except Halt (Option Demo)}
    (reaches : Reaches packet rounds cursor)
    (loops : Loops packet cursor later result) :
    ∃ header, readHeader packet = .ok header ∧ Loops packet .first (rounds + later) result := by
  induction reaches generalizing later with
  | start read =>
      rw [Nat.zero_add]
      exact ⟨_, read, loops⟩
  | next _ room turned inductionHypothesis =>
      have earlier := inductionHypothesis (.goesOn room turned loops)
      rwa [Nat.add_right_comm]

/-- A halt of the loop is a halt of one of its rounds. -/
theorem Loops.exists_reaches
    {packet : Bytes}
    {cursor : Cursor}
    {before rounds : Nat}
    {halt : Halt}
    (loops : Loops packet cursor rounds (.error halt))
    (reaches : Reaches packet before cursor) :
    ∃ earlier last,
      Reaches packet earlier last ∧ last.HasRoom packet ∧ turn packet last = .error halt := by
  generalize same : Except.error halt = result at loops
  induction loops generalizing before with
  | exhausted | stopped => cases same
  | halted room turned =>
      cases same
      exact ⟨before, _, reaches, room, turned⟩
  | goesOn room turned _ inductionHypothesis =>
      exact inductionHypothesis (reaches.next room turned) same

/-! ## Inside the packet -/

/-- The guards of an option raise no fault of a checksum. -/
theorem optionAt?_ne_checksumTooShort
    (packet : Bytes)
    (offset length : Nat) :
    optionAt? packet offset ≠ .error (.checksumTooShort length) := by
  intro found
  unfold optionAt? at found
  split at found
  · simp only at found
    split at found
    · cases found
    · split at found <;> cases found
  · cases found

/-- A demo option has no checksum that could be too short. -/
theorem Demo.ofPayload_ne_checksumTooShort
    (payload : Bytes)
    (length : Nat) :
    Demo.ofPayload payload ≠ .error (.checksumTooShort length) := by
  intro read
  unfold Demo.ofPayload at read
  split at read <;> cases read

/-- A checksum option is judged by its first word and by the bytes in front of it. -/
theorem verify_eq
    (packet : Bytes)
    (item : PacketOption) :
    verify packet item =
      if item.payload.length < 4 then
        .error (.checksumTooShort item.payload.length)
      else if item.payload.word32 0 = Bytes.sum (packet.take item.offset) then
        .ok ()
      else
        .error
          (.checksumMismatch (item.payload.word32 0) (Bytes.sum (packet.take item.offset))) := by
  unfold verify
  by_cases short : item.payload.length < 4
  · have unread : item.payload.field? 0 4 = none := by
      have part : ((item.payload.drop 0).take 4).length ≠ 4 := by
        rw [List.length_take, List.length_drop]
        omega
      rw [Bytes.field?, if_neg part]
    rw [if_pos short, unread]
  · have read : item.payload.field? 0 4 = some (item.payload.field 0 4) :=
      Bytes.field?_eq_some (by omega)
    rw [if_neg short, read]
    rfl

/-- An option that declares itself behind its guards is one that the decoder finds. -/
theorem exists_item_of_declaration
    {packet : Bytes}
    {offset finish : Nat}
    {tag : UInt16}
    (room : offset + optionHeaderSize ≤ packet.length)
    (declared : declaration packet offset = .ok (tag, finish)) :
    ∃ item, optionAt? packet offset = .ok (some item) ∧ item.tag = tag ∧ item.finish = finish := by
  rw [declaration_eq room] at declared
  cases found : optionAt? packet offset with
  | error fault =>
      rw [found] at declared
      cases declared
  | ok item? =>
      cases item? with
      | none =>
          rw [optionAt?_eq_none_iff] at found
          exact absurd room (Nat.not_le.mpr found)
      | some item =>
          rw [found] at declared
          cases declared
          exact ⟨item, rfl, rfl, rfl⟩

/-- The end of an option that was found, in terms of its payload. -/
theorem finish_eq_of_optionAt?
    {packet : Bytes}
    {offset : Nat}
    {item : PacketOption}
    (found : optionAt? packet offset = .ok (some item)) :
    item.finish = offset + optionHeaderSize + item.payload.length := by
  have passed := (optionAt?_sound found).2.2.1
  rw [Block.length_bytes, ← Nat.add_assoc] at passed
  exact passed

/-- A round of a packet finds a checksum option with a payload that is too short for a checksum. -/
inductive ShortChecksum (packet : Bytes) (length : Nat) : Prop where
  | found
      (rounds : Nat)
      (cursor : Cursor)
      (reaches : Reaches packet rounds cursor)
      (room : cursor.HasRoom packet)
      (declared :
        declaration packet cursor.offset =
          .ok (checksumTag, cursor.offset + optionHeaderSize + length))
      (short : length < 4)

/-- A checksum option in a packet, and what the round that finds it comes to. -/
structure Certification
    (packet : Bytes)
    (cursor : Cursor)
    (before payload after : Bytes) :
    Prop where
  /-- The bytes before the option are all bytes from the first one up to it. -/
  parts : packet = before ++ (Block.mk checksumTag payload).bytes ++ after
  located : before.length = cursor.offset
  turned :
    4 ≤ payload.length →
    turn packet cursor =
      if payload.word32 0 = before.sum then
        .ok .stops
      else
        .error (.refused (.checksumMismatch (payload.word32 0) before.sum))

/-- What the loop keeps to in a packet. -/
structure StaysInside (packet : Bytes) : Prop where
  /-- Decoding comes to the answer of the decoder, and to nothing else. -/
  ends :
    ∀ result,
      (∃ rounds, Scans packet rounds result) ↔ result = (decode packet).mapError Halt.ofFault
  reported :
    ∀ fault,
      decode packet = .error fault →
      (Halt.ofFault fault).error? = some fault.toError
  limited :
    ∀ rounds result,
      Scans packet rounds result →
      rounds ≤ (packet.length - headerSize) / optionHeaderSize
  /-- The payload of every option lies behind the header and in the packet. -/
  sliced :
    ∀ rounds cursor tag finish,
      Reaches packet rounds cursor →
      cursor.HasRoom packet →
      declaration packet cursor.offset = .ok (tag, finish) →
      headerSize ≤ cursor.offset ∧
        cursor.offset + optionHeaderSize ≤ finish ∧
        finish ≤ packet.length ∧
        ∃ payload, slice packet (cursor.offset + optionHeaderSize) finish = .ok payload
  advances :
    ∀ rounds cursor next,
      Reaches packet rounds cursor →
      cursor.HasRoom packet →
      turn packet cursor = .ok (.goesOn next) →
      cursor.offset + optionHeaderSize ≤ next.offset
  /-- No slice leaves the packet. -/
  neverOutside :
    ∀ rounds start stop length,
      ¬ Scans packet rounds (.error (.outside start stop length))
  /-- The only read that can run short is that of a checksum. -/
  shortRead :
    ∀ place what offset length,
      (∃ rounds, Scans packet rounds (.error (.shortRead place what offset length))) ↔
        place = .checksum ∧ what = "u32" ∧ offset = 0 ∧ ShortChecksum packet length
  certified :
    ∀ rounds cursor finish,
      Reaches packet rounds cursor →
      cursor.HasRoom packet →
      declaration packet cursor.offset = .ok (checksumTag, finish) →
      ∃ before payload after, Certification packet cursor before payload after

/-- No slice leaves the packet. -/
theorem not_scans_outside
    {packet : Bytes}
    {rounds start stop length : Nat} :
    ¬ Scans packet rounds (.error (.outside start stop length)) := by
  intro scans
  have same := scans_iff.mp ⟨rounds, scans⟩
  cases decoded : decode packet with
  | error fault =>
      rw [decoded] at same
      exact Halt.ofFault_ne_outside fault start stop length (Except.error.inj same).symm
  | ok record =>
      rw [decoded] at same
      cases same

/-- A round that halts at a read that is too short has found a checksum option. -/
theorem exists_item_of_shortRead
    {packet : Bytes}
    {cursor : Cursor}
    {place : Place}
    {what : String}
    {offset length : Nat}
    (room : cursor.HasRoom packet)
    (turned : turn packet cursor = .error (.shortRead place what offset length)) :
    place = .checksum ∧ what = "u32" ∧ offset = 0 ∧
      ∃ item,
        optionAt? packet cursor.offset = .ok (some item) ∧
        item.tag = checksumTag ∧
        item.payload.length = length ∧
        length < 4 := by
  have round := turnCase room
  generalize outcome : turn packet cursor = result at round
  rw [turned] at outcome
  cases round with
  | demo | certified | skipped => cases outcome
  | unfound fault found =>
      obtain ⟨rfl, -⟩ := Halt.ofFault_eq_shortRead_iff.mp (Except.error.inj outcome).symm
      exact absurd found (optionAt?_ne_checksumTooShort packet _ length)
  | unreadable item fault found isDemo read =>
      obtain ⟨rfl, -⟩ := Halt.ofFault_eq_shortRead_iff.mp (Except.error.inj outcome).symm
      exact absurd read (Demo.ofPayload_ne_checksumTooShort _ length)
  | uncertified item fault found isChecksum verified =>
      obtain ⟨rfl, isPlace, isWhat, isStart⟩ :=
        Halt.ofFault_eq_shortRead_iff.mp (Except.error.inj outcome).symm
      rw [verify_eq] at verified
      split at verified
      · rename_i short
        cases verified
        exact ⟨isPlace, isWhat, isStart, item, found, isChecksum, rfl, short⟩
      · split at verified <;> cases verified

/-- Only the word of a short checksum is ever read behind the end of a payload. -/
theorem shortChecksum_of_scans
    {packet : Bytes}
    {rounds : Nat}
    {place : Place}
    {what : String}
    {offset length : Nat}
    (scans : Scans packet rounds (.error (.shortRead place what offset length))) :
    place = .checksum ∧ what = "u32" ∧ offset = 0 ∧ ShortChecksum packet length := by
  generalize same :
    (Except.error (.shortRead place what offset length) : Except Halt NavigationRecord) = result
    at scans
  cases scans with
  | refused read =>
      cases same
      rw [readHeader_eq] at read
      split at read
      · cases read
      · split at read <;> cases read
  | @looped header _ outcome read loops =>
      cases outcome with
      | ok demo? => cases demo? <;> cases same
      | error halt =>
          cases same
          obtain ⟨earlier, last, reaches, room, turned⟩ := loops.exists_reaches (.start read)
          obtain ⟨isPlace, isWhat, isStart, item, found, isChecksum, rfl, short⟩ :=
            exists_item_of_shortRead room turned
          refine ⟨isPlace, isWhat, isStart, .found earlier last reaches room ?_ short⟩
          rw [declaration_eq room, found, ← finish_eq_of_optionAt? found, ← isChecksum]

/-- A packet with a short checksum runs short there. -/
theorem ShortChecksum.exists_scans
    {packet : Bytes}
    {length : Nat}
    (shortChecksum : ShortChecksum packet length) :
    ∃ rounds, Scans packet rounds (.error (.shortRead .checksum "u32" 0 length)) := by
  obtain ⟨rounds, cursor, reaches, room, declared, short⟩ := shortChecksum
  obtain ⟨item, found, isChecksum, finish⟩ := exists_item_of_declaration room declared
  have whole : item.payload.length = length := by
    rw [finish_eq_of_optionAt? found] at finish
    omega
  have turned : turn packet cursor = .error (.shortRead .checksum "u32" 0 length) := by
    rw [turn_of_optionAt? found, isChecksum, if_neg demoTag_ne_checksumTag.symm, if_pos rfl,
      verify_eq, whole, if_pos short]
    rfl
  obtain ⟨header, read, loops⟩ := reaches.exists_loops (.halted room turned)
  exact ⟨rounds + 1, .looped read loops⟩

/-- A round that finds a checksum option compares it with the sum of what comes before. -/
theorem exists_certification
    {packet : Bytes}
    {cursor : Cursor}
    {finish : Nat}
    (room : cursor.HasRoom packet)
    (declared : declaration packet cursor.offset = .ok (checksumTag, finish)) :
    ∃ before payload after, Certification packet cursor before payload after := by
  obtain ⟨item, found, isChecksum, -⟩ := exists_item_of_declaration room declared
  obtain ⟨located, -, -, written⟩ := optionAt?_sound found
  rw [PacketOption.block, isChecksum] at written
  refine ⟨packet.take cursor.offset, item.payload, packet.drop item.finish, ?_, ?_, ?_⟩
  · rw [List.append_assoc, ← written, List.take_append_drop]
  · exact List.length_take_of_le (Nat.le_trans (Nat.le_add_right _ _) room)
  · intro long
    rw [turn_of_optionAt? found, isChecksum, if_neg demoTag_ne_checksumTag.symm, if_pos rfl,
      verify_eq, if_neg (Nat.not_lt.mpr long), located]
    split <;> rfl

/--
Decoding reads and slices inside the packet, whatever its bytes are: the loop ends, each round moves
on, and only a checksum option that has no room for a checksum makes a read run short.
-/
theorem option_loop_stays_inside (packet : Bytes) : StaysInside packet where
  ends := fun _ => scans_iff
  reported := fun fault _ => Halt.error?_ofFault fault
  limited := fun _ _ scans => scans.rounds_le
  sliced := by
    intro rounds cursor tag finish reaches room declared
    obtain ⟨item, found, -, rfl⟩ := exists_item_of_declaration room declared
    have behind : headerSize ≤ cursor.offset :=
      Nat.le_trans (Nat.le_add_right _ _) reaches.bounds.1
    exact ⟨behind, (optionAt?_bounds found).1, (optionAt?_bounds found).2, item.payload,
      slice_of_optionAt? found⟩
  advances := fun _ _ _ _ room turned => (offset_of_goesOn room turned).1
  neverOutside := fun _ _ _ _ => not_scans_outside
  shortRead := by
    intro place what offset length
    constructor
    · rintro ⟨rounds, scans⟩
      exact shortChecksum_of_scans scans
    · rintro ⟨rfl, rfl, rfl, shortChecksum⟩
      exact shortChecksum.exists_scans
  certified := fun _ _ _ _ room declared => exists_certification room declared

end Wire

end DroneSession
