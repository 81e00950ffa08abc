import DroneSession.Slot
import DroneSession.Video.Frame
import DroneSession.Video.Framing
import DroneSession.Worker.Basic

namespace DroneSession

/-!
# Video decoding

The video worker strips the framing, hands each unit to a decoder and publishes the pictures that
come out of it.  With resynchronisation, pictures that depend on others are withheld until a
keyframe arrives, at the start and after every unit that the decoder rejects.
-/

/-- The pixels that a decoder made of a unit. -/
structure DecodedPicture where
  width : UInt32
  height : UInt32
  pixels : Bytes
  deriving DecidableEq

/-- What a decoder makes of a unit. -/
inductive DecodeOutcome where
  | picture (picture : DecodedPicture)
  | noPicture
  | rejected (error : SessionError)
  | panicked (message : Option String)
  deriving DecidableEq

/-- A video decoder as a function of a state of its own. -/
structure VideoDecoder (δ : Type) where
  layout : PixelLayout
  decode : δ → Bytes → δ × DecodeOutcome

/-- The state of a worker of pictures. -/
structure VideoStage (δ : Type) where
  decoder : δ
  awaitingKeyframe : Bool
  nextNumber : UInt64
  slot : Slot VideoFrame

namespace VideoWorker

variable {δ : Type}

/-- The nominal rate of video frames. -/
def sourceHertz : Float :=
  30.0

/-- The name under which the worker of pictures reports. -/
def name : String :=
  "video-decoder"

/-- Publish a decoded picture if its buffer fits its geometry. -/
def publish
    (layout : PixelLayout)
    (stage : VideoStage δ)
    (picture : DecodedPicture) :
    VideoStage δ × HandlerOutcome :=
  match VideoFrame.of stage.nextNumber picture.width picture.height layout picture.pixels with
  | .ok frame =>
      ( { stage with
          nextNumber := stage.nextNumber + 1
          slot := stage.slot.publish frame },
        .done )
  | .error fault => (stage, .failed fault.toError)

/-- Hand a unit to the decoder and publish the picture that it gives. -/
def decodeUnit
    (decoder : VideoDecoder δ)
    (resync : Bool)
    (stage : VideoStage δ)
    (unit : VideoUnit) :
    VideoStage δ × HandlerOutcome :=
  let (state, outcome) := decoder.decode stage.decoder unit.payload
  let stage := { stage with decoder := state }
  match outcome with
  | .picture picture => publish decoder.layout stage picture
  | .noPicture => (stage, .done)
  | .rejected error => ({ stage with awaitingKeyframe := resync }, .failed error)
  | .panicked message => (stage, .panicked message)

/-- Whether a unit is withheld from the decoder. -/
def withholds
    (stage : VideoStage δ)
    (unit : VideoUnit) :
    Bool :=
  stage.awaitingKeyframe && unit.isKeyframe? == some false

/-- Decode the unit of a packet, unless it is withheld; a packet without one is malformed. -/
def handle
    (decoder : VideoDecoder δ)
    (resync : Bool)
    (stage : VideoStage δ)
    (packet : Packet) :
    VideoStage δ × HandlerOutcome :=
  match packet.kind with
  | .navigation =>
      (stage, .failed (.malformedPacket "video worker" "received a navigation packet"))
  | .video =>
      match Framing.parse packet.payload with
      | .error fault => (stage, .failed fault.toError)
      | .ok unit =>
          if withholds stage unit then
            (stage, .done)
          else
            let awaiting := stage.awaitingKeyframe && unit.isKeyframe? != some true
            decodeUnit decoder resync { stage with awaitingKeyframe := awaiting } unit

/-- The handler of pictures, which has nothing to do at its end. -/
def handler
    (decoder : VideoDecoder δ)
    (resync : Bool) :
    Handler (VideoStage δ) where
  handle := handle decoder resync
  finish := fun stage => (stage, .done)

/-- A worker of pictures that was not started. -/
def create
    (decoder : VideoDecoder δ)
    (resync : Bool)
    (state : δ) :
    Worker (VideoStage δ) :=
  .create name (handler decoder resync)
    { decoder := state
      awaitingKeyframe := resync
      nextNumber := 0
      slot := .empty }

end VideoWorker

end DroneSession
