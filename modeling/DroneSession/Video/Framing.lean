import DroneSession.Bytes
import DroneSession.Error

namespace DroneSession

/-!
# Framing of video packets

The drone wraps an encoded picture in a header that starts with a signature.  Packets without the
signature are handed to the decoder as they are.
-/

/-- What kind of picture a unit encodes. -/
inductive FrameType where
  | idr
  | intra
  | predicted
  | unknown (raw : UInt8)
  deriving Repr, DecidableEq

namespace FrameType

/-- The kind of picture that a byte stands for. -/
def ofRaw (raw : UInt8) : FrameType :=
  if raw = 1 then .idr
  else if raw = 2 then .intra
  else if raw = 3 then .predicted
  else .unknown raw

/-- The byte of a kind of picture. -/
def raw : FrameType → UInt8
  | .idr => 1
  | .intra => 2
  | .predicted => 3
  | .unknown raw => raw

/-- The name of a kind of picture. -/
def label : FrameType → String
  | .idr => "Idr"
  | .intra => "Intra"
  | .predicted => "Predicted"
  | .unknown raw => "Unknown(" ++ toString raw.toNat ++ ")"

/-- Whether a decoder can start from such a picture. -/
def isKeyframe : FrameType → Bool
  | .idr => true
  | .intra => true
  | _ => false

end FrameType

/-- What the header of a picture says. -/
structure FrameHeader where
  headerSize : UInt16
  payloadSize : UInt32
  width : UInt16
  height : UInt16
  frameNumber : UInt32
  frameType : FrameType
  deriving Repr, DecidableEq

/-- A video packet divided into what the decoder sees and what it does not see. -/
inductive VideoUnit where
  | framed (header : FrameHeader) (payload : Bytes)
  | raw (payload : Bytes)
  deriving Repr, DecidableEq

namespace VideoUnit

/-- The octets of a unit that a decoder is handed. -/
def payload : VideoUnit → Bytes
  | .framed _ payload => payload
  | .raw payload => payload

/-- Whether the unit is a keyframe; without a header this is not known. -/
def isKeyframe? : VideoUnit → Option Bool
  | .framed header _ => some header.frameType.isKeyframe
  | .raw _ => none

end VideoUnit

namespace Framing

/-- Why a packet with the signature was refused. -/
inductive Fault where
  | tooShort (length : Nat)
  | headerTooSmall (size : UInt16)
  | payloadOverruns (payloadSize : UInt32) (headerSize : UInt16) (length : Nat)
  deriving Repr, DecidableEq

/-- The letters `PaVE`, with which every header starts. -/
def signature : Bytes :=
  [0x50, 0x61, 0x56, 0x45]

/-- The size of the smallest header that holds the kind of picture. -/
def leastHeaderSize : Nat :=
  32

/-- The octets of a header as it is written. -/
def writtenHeaderSize : Nat :=
  64

namespace Fault

/-- The failure that a refused packet raises. -/
def toError : Fault → SessionError
  | .tooShort length =>
      .malformedPacket "PaVE header"
        (toString length ++ " bytes, need at least " ++ toString leastHeaderSize)
  | .headerTooSmall size =>
      .malformedPacket "PaVE header"
        ("declared header size " ++ toString size.toNat ++ " is too small")
  | .payloadOverruns payloadSize headerSize length =>
      .malformedPacket "PaVE payload"
        ("declares " ++ toString payloadSize.toNat ++ " bytes after "
          ++ toString headerSize.toNat ++ "-byte header, packet has " ++ toString length)

end Fault

/-- Divide a video packet into its header and its payload. -/
def parse (packet : Bytes) : Except Fault VideoUnit :=
  if signature.isPrefixOf packet then
    if packet.length < leastHeaderSize then
      .error (.tooShort packet.length)
    else
      let headerSize := packet.word16 6
      let payloadSize := packet.word32 8
      if headerSize.toNat < leastHeaderSize then
        .error (.headerTooSmall headerSize)
      else if packet.length < headerSize.toNat + payloadSize.toNat then
        .error (.payloadOverruns payloadSize headerSize packet.length)
      else
        .ok
          (.framed
            { headerSize := headerSize
              payloadSize := payloadSize
              width := packet.word16 12
              height := packet.word16 14
              frameNumber := packet.word32 20
              frameType := .ofRaw (UInt8.ofNat (packet.field 30 1)) }
            ((packet.drop headerSize.toNat).take payloadSize.toNat))
  else
    .ok (.raw packet)

/-- Put a header in front of a payload; both sizes are computed and not taken from the header. -/
def encode
    (header : FrameHeader)
    (payload : Bytes) :
    Bytes :=
  signature
    ++ [3, 4]
    ++ Bytes.encode 2 writtenHeaderSize
    ++ Bytes.encode 4 payload.length
    ++ Bytes.ofWord16 header.width
    ++ Bytes.ofWord16 header.height
    ++ Bytes.ofWord16 header.width
    ++ Bytes.ofWord16 header.height
    ++ Bytes.ofWord32 header.frameNumber
    ++ List.replicate 6 0
    ++ [header.frameType.raw]
    ++ List.replicate 33 0
    ++ payload

end Framing

end DroneSession
