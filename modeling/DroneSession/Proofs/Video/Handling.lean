import Mathlib.Data.List.Induction
import DroneSession.Proofs.Worker.Step
import DroneSession.Video.Worker

namespace DroneSession

/-!
# One packet of the video worker

What the video worker does with a packet is said here once, for every decoder: a packet that holds
no unit is dropped, a unit may be withheld, and any other is decoded.  A decoder that keeps a log of
its calls tells what it was handed and behaves otherwise like the decoder that it watches.
-/

/-- Whether a decoder has rejected a unit. -/
def DecodeOutcome.isRejection : DecodeOutcome → Bool
  | .rejected _ => true
  | _ => false

/-- A unit that a decoder was handed, and what it made of it. -/
structure DecodeCall where
  unit : Bytes
  outcome : DecodeOutcome
  deriving DecidableEq

/-- The same decoder with a log of its calls. -/
def VideoDecoder.logged
    {δ : Type}
    (decoder : VideoDecoder δ) :
    VideoDecoder (δ × List DecodeCall) where
  layout := decoder.layout
  decode := fun (state, calls) unit =>
    let (next, outcome) := decoder.decode state unit
    ((next, calls ++ [⟨unit, outcome⟩]), outcome)

/-- A watched decoder decodes a unit as before, and the call is logged with its outcome. -/
theorem VideoDecoder.decode_logged
    {δ : Type}
    (decoder : VideoDecoder δ)
    (logging : δ × List DecodeCall)
    (unit : Bytes) :
    decoder.logged.decode logging unit =
      (((decoder.decode logging.1 unit).1,
          logging.2 ++ [⟨unit, (decoder.decode logging.1 unit).2⟩]),
        (decoder.decode logging.1 unit).2) :=
  rfl

namespace VideoStage

variable {δ : Type}

/-- The units that a logged decoder was handed so far. -/
def calls (stage : VideoStage (δ × List DecodeCall)) : List DecodeCall :=
  stage.decoder.2

/-- The stage without the log of its decoder. -/
def forget (stage : VideoStage (δ × List DecodeCall)) : VideoStage δ where
  decoder := stage.decoder.1
  awaitingKeyframe := stage.awaitingKeyframe
  nextNumber := stage.nextNumber
  slot := stage.slot

end VideoStage

namespace VideoWorker

variable {δ : Type} {decoder : VideoDecoder δ} {resync : Bool}

/-- The unit in a packet; packets of the other stream and malformed ones hold none. -/
def unitIn? (packet : Packet) : Option VideoUnit :=
  match packet.kind with
  | .navigation => none
  | .video => (Framing.parse packet.payload).toOption

/-- Everything that handling a packet can do. -/
inductive HandleCase
    (decoder : VideoDecoder δ)
    (resync : Bool)
    (stage : VideoStage δ)
    (packet : Packet) :
    VideoStage δ × HandlerOutcome → Prop where
  | dropped
      (absent : unitIn? packet = none)
      (error : SessionError)
      (absorbed : error.isAbsorbed = true) :
      HandleCase decoder resync stage packet (stage, .failed error)
  | withheld
      (unit : VideoUnit)
      (present : unitIn? packet = some unit)
      (waits : withholds stage unit = true) :
      HandleCase decoder resync stage packet (stage, .done)
  /-- A keyframe ends the wait even if the decoder then rejects it. -/
  | decoded
      (unit : VideoUnit)
      (present : unitIn? packet = some unit)
      (passes : withholds stage unit = false) :
      HandleCase decoder resync stage packet
        (decodeUnit decoder resync
          { stage with
            awaitingKeyframe := stage.awaitingKeyframe && unit.isKeyframe? != some true }
          unit)

/-- Every handling of a packet is one of the cases of what it can do. -/
theorem handleCase
    (stage : VideoStage δ)
    (packet : Packet) :
    HandleCase decoder resync stage packet (handle decoder resync stage packet) := by
  unfold handle
  cases kind : packet.kind with
  | navigation =>
      refine .dropped ?_ _ rfl
      rw [unitIn?, kind]
  | video =>
      cases parsed : Framing.parse packet.payload with
      | error fault =>
          refine .dropped ?_ _ ?_
          · rw [unitIn?, kind]
            exact congrArg Except.toOption parsed
          · cases fault <;> rfl
      | ok unit =>
          have present : unitIn? packet = some unit := by
            rw [unitIn?, kind]
            exact congrArg Except.toOption parsed
          dsimp only
          cases waits : withholds stage unit with
          | true => exact .withheld unit present waits
          | false => exact .decoded unit present waits

/-- Publishing a picture does not touch the decoder and does not make the worker wait. -/
theorem publish_keeps
    (layout : PixelLayout)
    (stage : VideoStage δ)
    (picture : DecodedPicture) :
    (publish layout stage picture).1.decoder = stage.decoder ∧
      (publish layout stage picture).1.awaitingKeyframe = stage.awaitingKeyframe := by
  unfold publish
  split <;> exact ⟨rfl, rfl⟩

/-- A rejected unit makes a worker with resynchronisation wait, and no other outcome does. -/
theorem decodeUnit_keeps
    (stage : VideoStage δ)
    (unit : VideoUnit) :
    (decodeUnit decoder resync stage unit).1.decoder =
        (decoder.decode stage.decoder unit.payload).1 ∧
      (decodeUnit decoder resync stage unit).1.awaitingKeyframe =
        if (decoder.decode stage.decoder unit.payload).2.isRejection then
          resync
        else
          stage.awaitingKeyframe := by
  unfold decodeUnit
  rcases decoder.decode stage.decoder unit.payload with ⟨state, outcome⟩
  cases outcome with
  | picture picture =>
      exact publish_keeps decoder.layout { stage with decoder := state } picture
  | noPicture => exact ⟨rfl, rfl⟩
  | rejected error => exact ⟨rfl, rfl⟩
  | panicked message => exact ⟨rfl, rfl⟩

/-! ## Watching a decoder -/

/-- What a worker has done with some packets, with a log of what its decoder was handed. -/
def watched
    (decoder : VideoDecoder δ)
    (resync : Bool)
    (state : δ)
    (packets : List Packet) :
    VideoStage (δ × List DecodeCall) :=
  (handler decoder.logged resync).handleAll
    (create decoder.logged resync (state, [])).state
    packets

end VideoWorker

end DroneSession
