import DroneSession.Bytes
import DroneSession.Time

namespace DroneSession

/-!
# Packets of the two drone streams

A packet belongs to the navigation stream or to the video stream.  Each stream numbers its packets
from zero without gaps.
-/

/-- Which of the two streams a packet belongs to. -/
inductive PacketKind where
  | navigation
  | video
  deriving Repr, DecidableEq

namespace PacketKind

/-- The byte that stands for the stream in a recording. -/
def tag : PacketKind → UInt8
  | .navigation => 1
  | .video => 2

/-- The stream that a byte stands for. -/
def ofTag? (tag : UInt8) : Option PacketKind :=
  if tag = 1 then some .navigation
  else if tag = 2 then some .video
  else none

/-- Every stream is found again from its byte. -/
@[simp] theorem ofTag?_tag
    (kind : PacketKind) :
    ofTag? kind.tag = some kind := by
  cases kind <;> rfl

end PacketKind

/--
A packet as a worker is given it: its stream, its number in the stream, its arrival and its bytes.
-/
structure Packet where
  kind : PacketKind
  sequence : UInt64
  timestamp : Instant
  payload : Bytes
  deriving DecidableEq

/-- The numbering of one stream. -/
structure Sequencer where
  kind : PacketKind
  issued : UInt64
  deriving Repr, DecidableEq

namespace Sequencer

/-- A numbering that has issued nothing yet. -/
def start (kind : PacketKind) : Sequencer where
  kind := kind
  issued := 0

/-- Give a payload the next number of the stream. -/
def stamp
    (sequencer : Sequencer)
    (timestamp : Instant)
    (payload : Bytes) :
    Packet × Sequencer :=
  ( { kind := sequencer.kind
      sequence := sequencer.issued
      timestamp := timestamp
      payload := payload },
    { sequencer with issued := sequencer.issued + 1 } )

end Sequencer

/-- One numbering for each stream. -/
structure Sequencers where
  navigation : Sequencer
  video : Sequencer
  deriving Repr, DecidableEq

namespace Sequencers

/-- Both streams numbered from zero. -/
def start : Sequencers where
  navigation := .start .navigation
  video := .start .video

/-- Give a payload the next number of its stream. -/
def stamp
    (sequencers : Sequencers)
    (kind : PacketKind)
    (timestamp : Instant)
    (payload : Bytes) :
    Packet × Sequencers :=
  match kind with
  | .navigation =>
      let (packet, navigation) := sequencers.navigation.stamp timestamp payload
      (packet, { sequencers with navigation := navigation })
  | .video =>
      let (packet, video) := sequencers.video.stamp timestamp payload
      (packet, { sequencers with video := video })

end Sequencers

end DroneSession
