import DroneSession.Error
import DroneSession.Packet
import DroneSession.Recording.Tick

namespace DroneSession

/-!
# Entries of a recording

A recording is a sequence of entries and nothing else.  An entry is the byte of its stream, its time
in ticks, the size of its payload and the payload itself.
-/

/-- An entry of a recording: the stream of a packet, its time in ticks and its bytes. -/
structure RecordedEntry where
  kind : PacketKind
  ticks : UInt64
  payload : Bytes
  deriving DecidableEq

namespace RecordedEntry

/-- The size of what lies in front of the payload. -/
def headerSize : Nat :=
  13

/-- The size of the largest payload that is written or read. -/
def largestPayload : Nat :=
  16 * 1024 * 1024

/-- The time of the entry since the start of the recording. -/
def offset (entry : RecordedEntry) : Duration :=
  Tick.toDuration entry.ticks

/-- What lies in front of the payload. -/
def header (entry : RecordedEntry) : Bytes :=
  entry.kind.tag :: (Bytes.ofWord64 entry.ticks ++ Bytes.encode 4 entry.payload.length)

/-- The bytes of an entry, its header in front. -/
def encode (entry : RecordedEntry) : Bytes :=
  entry.header ++ entry.payload

/-- The failure of an entry whose payload is too large to be written. -/
def tooLarge (entry : RecordedEntry) : StreamFault where
  kind := .invalidInput
  text :=
    "payload of " ++ toString entry.payload.length ++ " bytes exceeds "
      ++ toString largestPayload

/-- Whether the payload of an entry is small enough to be written. -/
def isWritable (entry : RecordedEntry) : Bool :=
  entry.payload.length ≤ largestPayload

/-- The two writes of an entry, or the failure that leaves the recording as it is. -/
def writes (entry : RecordedEntry) : Except StreamFault (List Bytes) :=
  if entry.isWritable then
    .ok [entry.header, entry.payload]
  else
    .error entry.tooLarge

/-- Append an entry to a recording in memory. -/
def append
    (entry : RecordedEntry)
    (written : Bytes) :
    Bytes × Except StreamFault Unit :=
  match entry.writes with
  | .ok pieces => (written ++ pieces.flatten, .ok ())
  | .error fault => (written, .error fault)

/-- Append entries one after another; each of them has an answer of its own. -/
def appendAll
    (written : Bytes) :
    List RecordedEntry → Bytes × List (Except StreamFault Unit)
  | [] => (written, [])
  | entry :: entries =>
      let (written, answer) := entry.append written
      let (written, answers) := appendAll written entries
      (written, answer :: answers)

end RecordedEntry

end DroneSession
