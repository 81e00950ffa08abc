import DroneSession.Recording.Entry
import DroneSession.Recording.Source

namespace DroneSession

/-!
# Reading a recording

A reader takes one entry after another from a source.  The end of the source between two entries is
the end of the recording; inside an entry it is a failure.
-/

/-- Why an entry could not be read. -/
inductive ReadFault where
  | source (fault : StreamFault)
  | headerTruncated (entry filled : Nat)
  | unknownTag (entry : Nat) (tag : UInt8)
  | payloadTooLarge (entry length : Nat)
  | payloadTruncated
  deriving Repr, DecidableEq

/-- The failure that a fault of a recording is reported as. -/
def ReadFault.toError : ReadFault → SessionError
  | .source fault => .sinkFailure "recording read" fault
  | .headerTruncated entry filled =>
      .sinkFailure "recording read"
        { kind := .unexpectedEnd
          text :=
            "entry " ++ toString entry ++ " header truncated after "
              ++ toString filled ++ " bytes" }
  | .unknownTag entry tag =>
      .malformedPacket "recording entry"
        ("entry " ++ toString entry ++ " has unknown kind tag " ++ toString tag.toNat)
  | .payloadTooLarge entry length =>
      .malformedPacket "recording entry"
        ("entry " ++ toString entry ++ " declares " ++ toString length ++ " payload bytes")
  | .payloadTruncated =>
      .sinkFailure "recording read"
        { kind := .unexpectedEnd
          text := "failed to fill whole buffer" }

/-- A source and the number of entries that were read from it. -/
structure RecordingReader where
  source : Source
  entries : Nat

namespace RecordingReader

/-- A reader at the front of a source. -/
def ofSource (source : Source) : RecordingReader where
  source := source
  entries := 0

/-- A reader of bytes in memory. -/
def ofBytes (bytes : Bytes) : RecordingReader :=
  ofSource (.ofBytes bytes)

/-- Read the payload of an entry whose header was read. -/
def readPayload
    (reader : RecordingReader)
    (kind : PacketKind)
    (ticks : UInt64)
    (length : Nat) :
    RecordingReader × Except ReadFault (Option RecordedEntry) :=
  let filled := reader.source.fill length
  let reader := { reader with source := filled.source }
  match filled.fault with
  | some fault => (reader, .error (.source fault))
  | none =>
      if filled.bytes.length = length then
        ( { reader with entries := reader.entries + 1 },
          .ok (some { kind := kind, ticks := ticks, payload := filled.bytes }) )
      else
        (reader, .error .payloadTruncated)

/-- Read the next entry; nothing at the end of the recording. -/
def next
    (reader : RecordingReader) :
    RecordingReader × Except ReadFault (Option RecordedEntry) :=
  let filled := reader.source.fill RecordedEntry.headerSize
  let reader := { reader with source := filled.source }
  let header := filled.bytes
  match filled.fault with
  | some fault => (reader, .error (.source fault))
  | none =>
      if header.isEmpty then
        (reader, .ok none)
      else if header.length < RecordedEntry.headerSize then
        (reader, .error (.headerTruncated reader.entries header.length))
      else
        let tag := UInt8.ofNat (header.field 0 1)
        match PacketKind.ofTag? tag with
        | none => (reader, .error (.unknownTag reader.entries tag))
        | some kind =>
            let length := header.field 9 4
            if RecordedEntry.largestPayload < length then
              (reader, .error (.payloadTooLarge reader.entries length))
            else
              reader.readPayload kind (header.word64 1) length

/--
The results of reading on until the recording ends or a read fails, which ends the list.  `fuel`
bounds their number.
-/
def results
    (reader : RecordingReader) :
    (fuel : Nat) →
    RecordingReader × List (Except ReadFault RecordedEntry)
  | 0 => (reader, [])
  | fuel + 1 =>
      match reader.next with
      | (reader, .ok none) => (reader, [])
      | (reader, .error fault) => (reader, [.error fault])
      | (reader, .ok (some entry)) =>
          let (reader, others) := reader.results fuel
          (reader, .ok entry :: others)

/-- All results of a reader; every one of them takes at least one byte from the source. -/
def readAll
    (reader : RecordingReader) :
    RecordingReader × List (Except ReadFault RecordedEntry) :=
  reader.results (reader.source.rest.length + 1)

/-- The results of `count` reads, going on after failures. -/
def nextMany
    (reader : RecordingReader) :
    (count : Nat) →
    RecordingReader × List (Except ReadFault (Option RecordedEntry))
  | 0 => (reader, [])
  | count + 1 =>
      let (reader, result) := reader.next
      let (reader, others) := reader.nextMany count
      (reader, result :: others)

end RecordingReader

/-- A reader that is asked for one entry after another and has no more after its first failure. -/
structure RecordingIterator where
  reader : RecordingReader
  failed : Bool

namespace RecordingIterator

/-- An iterator over the entries that a reader still has. -/
def ofReader (reader : RecordingReader) : RecordingIterator where
  reader := reader
  failed := false

/-- Read one entry; behind a failure there is nothing more. -/
def next
    (iterator : RecordingIterator) :
    RecordingIterator × Option (Except ReadFault RecordedEntry) :=
  if iterator.failed then
    (iterator, none)
  else
    match iterator.reader.next with
    | (reader, .error fault) => ({ reader := reader, failed := true }, some (.error fault))
    | (reader, .ok none) => ({ iterator with reader := reader }, none)
    | (reader, .ok (some entry)) => ({ iterator with reader := reader }, some (.ok entry))

/-- The answers to `count` calls. -/
def nextMany
    (iterator : RecordingIterator) :
    (count : Nat) →
    RecordingIterator × List (Option (Except ReadFault RecordedEntry))
  | 0 => (iterator, [])
  | count + 1 =>
      let (iterator, answer) := iterator.next
      let (iterator, answers) := iterator.nextMany count
      (iterator, answer :: answers)

end RecordingIterator

/-- The entries of a recording up to the first that cannot be read. -/
def readableEntries (bytes : Bytes) : List RecordedEntry :=
  (RecordingReader.ofBytes bytes).readAll.2.filterMap fun result =>
    match result with
    | .ok entry => some entry
    | .error _ => none

end DroneSession
