import DroneSession.Bytes
import DroneSession.Error
import DroneSession.Telemetry.Record

namespace DroneSession

/-!
# Navigation packets on the wire

A packet is a header of 16 bytes followed by options.  An option starts with its tag and its size,
which counts these four bytes.  The demo option carries the record, the checksum option ends the
packet and holds the sum of all bytes before it, and options with other tags are skipped.
-/

namespace Wire

/-- Why a packet was refused. -/
inductive Fault where
  | tooShort (length : Nat)
  | badMagic (magic : UInt32)
  | optionTooSmall (tag : UInt16) (offset size : Nat)
  | optionOverruns (tag : UInt16) (offset length : Nat)
  | demoTooShort (length : Nat)
  | checksumTooShort (length : Nat)
  | checksumMismatch (expected computed : UInt32)
  | demoMissing
  deriving Repr, DecidableEq

/-- The first word of every navigation packet. -/
def magic : UInt32 :=
  0x55667788

/-- The octets of the header of a packet. -/
def headerSize : Nat :=
  16

/-- The octets in front of the payload of an option. -/
def optionHeaderSize : Nat :=
  4

/-- The size of the part of a demo option that is read. -/
def demoSize : Nat :=
  40

/-- The size of the smallest packet that can hold a demo option. -/
def leastSize : Nat :=
  headerSize + optionHeaderSize + demoSize

/-- The tag of the demo option. -/
def demoTag : UInt16 :=
  0x0000

/-- The tag of the checksum option. -/
def checksumTag : UInt16 :=
  0xffff

namespace Fault

/-- What part of the packet was at fault. -/
def context : Fault → String
  | .tooShort _ => "navdata length"
  | .badMagic _ => "navdata header"
  | .optionTooSmall .. => "navdata option"
  | .optionOverruns .. => "navdata option"
  | .demoTooShort _ => "navdata demo option"
  | .checksumTooShort _ => "navdata field"
  | .checksumMismatch .. => "navdata checksum"
  | .demoMissing => "navdata options"

/-- What was wrong with it. -/
def details : Fault → String
  | .tooShort length =>
      toString length ++ " bytes, need at least " ++ toString leastSize
  | .badMagic magic => "bad magic " ++ Text.word32 magic
  | .optionTooSmall tag offset size =>
      "option " ++ Text.word16 tag ++ " at offset " ++ toString offset
        ++ " has size " ++ toString size
  | .optionOverruns tag offset length =>
      "option " ++ Text.word16 tag ++ " at offset " ++ toString offset
        ++ " overruns " ++ toString length ++ " bytes"
  | .demoTooShort length =>
      toString length ++ " payload bytes, need " ++ toString demoSize
  | .checksumTooShort length =>
      "no room for u32 at offset 0 in " ++ toString length ++ " bytes"
  | .checksumMismatch expected computed =>
      "expected " ++ Text.word32 expected ++ ", computed " ++ Text.word32 computed
  | .demoMissing => "demo option missing"

/-- The failure that a refused packet raises. -/
def toError (fault : Fault) : SessionError :=
  .malformedPacket fault.context fault.details

end Fault

/-- An option that was found at an offset; its size counts its tag and its size too. -/
structure PacketOption where
  tag : UInt16
  offset : Nat
  size : Nat
  payload : Bytes
  deriving Repr, DecidableEq

/-- Where an option ends. -/
def PacketOption.finish (item : PacketOption) : Nat :=
  item.offset + item.size

/-- The option at an offset; nothing if less than an option header is left there. -/
def optionAt?
    (packet : Bytes)
    (offset : Nat) :
    Except Fault (Option PacketOption) :=
  if offset + optionHeaderSize ≤ packet.length then
    let tag := packet.word16 offset
    let size := (packet.word16 (offset + 2)).toNat
    if size < optionHeaderSize then
      .error (.optionTooSmall tag offset size)
    else if packet.length < offset + size then
      .error (.optionOverruns tag offset packet.length)
    else
      .ok (some
        { tag := tag
          offset := offset
          size := size
          payload :=
            (packet.drop (offset + optionHeaderSize)).take (size - optionHeaderSize) })
  else
    .ok none

/-- An option that was found moves the offset forward and stays inside the packet. -/
theorem optionAt?_bounds
    {packet : Bytes}
    {offset : Nat}
    {item : PacketOption}
    (found : optionAt? packet offset = .ok (some item)) :
    offset + optionHeaderSize ≤ item.finish ∧ item.finish ≤ packet.length := by
  unfold optionAt? at found
  split at found
  · simp only at found
    split at found
    · cases found
    · split at found
      · cases found
      · rename_i _ large fits
        cases found
        simp only [PacketOption.finish]
        omega
  · cases found

/-- The part of a record that the demo option carries. -/
structure Demo where
  control : ControlState
  battery : UInt32
  theta : RawSingle
  phi : RawSingle
  psi : RawSingle
  altitude : Int32
  vx : RawSingle
  vy : RawSingle
  vz : RawSingle
  frameIndex : UInt32
  deriving DecidableEq

namespace Demo

/-- Read the words of a demo option. -/
def ofPayload (payload : Bytes) : Except Fault Demo :=
  if payload.length < demoSize then
    .error (.demoTooShort payload.length)
  else
    .ok
      { control := .ofWord (payload.word32 0)
        battery := payload.word32 4
        theta := ⟨payload.word32 8⟩
        phi := ⟨payload.word32 12⟩
        psi := ⟨payload.word32 16⟩
        altitude := (payload.word32 20).toInt32
        vx := ⟨payload.word32 24⟩
        vy := ⟨payload.word32 28⟩
        vz := ⟨payload.word32 32⟩
        frameIndex := payload.word32 36 }

/-- The payload of a demo option. -/
def toPayload (demo : Demo) : Bytes :=
  Bytes.ofWord32 demo.control.word
    ++ Bytes.ofWord32 demo.battery
    ++ Bytes.ofWord32 demo.theta.bits
    ++ Bytes.ofWord32 demo.phi.bits
    ++ Bytes.ofWord32 demo.psi.bits
    ++ Bytes.ofWord32 demo.altitude.toUInt32
    ++ Bytes.ofWord32 demo.vx.bits
    ++ Bytes.ofWord32 demo.vy.bits
    ++ Bytes.ofWord32 demo.vz.bits
    ++ Bytes.ofWord32 demo.frameIndex

end Demo

/-- Check a checksum option against the bytes before it. -/
def verify
    (packet : Bytes)
    (item : PacketOption) :
    Except Fault Unit :=
  match item.payload.field? 0 4 with
  | none => .error (.checksumTooShort item.payload.length)
  | some field =>
      let expected := UInt32.ofNat field
      let computed := Bytes.sum (packet.take item.offset)
      if expected = computed then
        .ok ()
      else
        .error (.checksumMismatch expected computed)

/--
Read the options from an offset on.  The last demo option wins; a checksum option is verified and
ends the packet, and so does a rest that is shorter than an option header.
-/
def readOptions
    (packet : Bytes)
    (offset : Nat)
    (demo : Option Demo) :
    Except Fault (Option Demo) :=
  match _found : optionAt? packet offset with
  | .error fault => .error fault
  | .ok none => .ok demo
  | .ok (some item) =>
      if item.tag = demoTag then
        match Demo.ofPayload item.payload with
        | .error fault => .error fault
        | .ok newest => readOptions packet item.finish (some newest)
      else if item.tag = checksumTag then
        match verify packet item with
        | .error fault => .error fault
        | .ok () => .ok demo
      else
        readOptions packet item.finish demo
termination_by packet.length - offset
decreasing_by
  all_goals
    have bounds := optionAt?_bounds _found
    simp only [optionHeaderSize] at bounds
    omega

/-- Put a record together from the header of a packet and its demo option. -/
def assemble
    (packet : Bytes)
    (demo : Demo) :
    NavigationRecord where
  status := ⟨packet.word32 4⟩
  sequence := packet.word32 8
  visionDefined := packet.word32 12
  control := demo.control
  battery := demo.battery
  theta := demo.theta
  phi := demo.phi
  psi := demo.psi
  altitude := demo.altitude
  vx := demo.vx
  vy := demo.vy
  vz := demo.vz
  frameIndex := demo.frameIndex

/-- Decode a packet: its header, its options up to a checksum, and the last demo among them. -/
def decode (packet : Bytes) : Except Fault NavigationRecord :=
  if packet.length < leastSize then
    .error (.tooShort packet.length)
  else if packet.word32 0 ≠ magic then
    .error (.badMagic (packet.word32 0))
  else
    match readOptions packet headerSize none with
    | .error fault => .error fault
    | .ok none => .error .demoMissing
    | .ok (some demo) => .ok (assemble packet demo)

/-- The part of a record that goes into the demo option. -/
def demoOf (record : NavigationRecord) : Demo where
  control := record.control
  battery := record.battery
  theta := record.theta
  phi := record.phi
  psi := record.psi
  altitude := record.altitude
  vx := record.vx
  vy := record.vy
  vz := record.vz
  frameIndex := record.frameIndex

/-- The octets of an option. -/
def encodeOption
    (tag : UInt16)
    (payload : Bytes) :
    Bytes :=
  Bytes.ofWord16 tag ++ Bytes.encode 2 (optionHeaderSize + payload.length) ++ payload

/-- The header and the demo option of a record. -/
def encodeBody (record : NavigationRecord) : Bytes :=
  Bytes.ofWord32 magic
    ++ Bytes.ofWord32 record.status.bits
    ++ Bytes.ofWord32 record.sequence
    ++ Bytes.ofWord32 record.visionDefined
    ++ encodeOption demoTag (demoOf record).toPayload

/-- Encode a record as a header, a demo option and a checksum option. -/
def encode (record : NavigationRecord) : Bytes :=
  let body := encodeBody record
  body ++ encodeOption checksumTag (Bytes.ofWord32 body.sum)

end Wire

end DroneSession
