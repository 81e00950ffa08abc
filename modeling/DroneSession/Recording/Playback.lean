import DroneSession.Recording.Reader
import DroneSession.Worker.Notification

namespace DroneSession

/-!
# Playing a recording

The player offers the recorded packets to a sink as if they had just arrived.  An entry is released
at the start of the playback plus its offset divided by the rate.  Each playback numbers both
streams from zero.  `Playback.advance` reads one entry or releases the one that was read, and a stop
can take effect between any two steps.
-/

/-- How far a player has come. -/
inductive PlayerState where
  | idle
  | playing
  /-- The end of the recording was reached. -/
  | finished
  /-- The playback was stopped before the end. -/
  | cancelled
  /-- The recording could not be read or timed. -/
  | failed
  deriving Repr, DecidableEq

namespace PlayerState

/-- The name of a state. -/
def name : PlayerState → String
  | .idle => "Idle"
  | .playing => "Playing"
  | .finished => "Finished"
  | .cancelled => "Cancelled"
  | .failed => "Failed"

/-- Whether a playback in this state has ended. -/
def isTerminal : PlayerState → Bool
  | .finished => true
  | .cancelled => true
  | .failed => true
  | _ => false

end PlayerState

/-- An entry that was read and waits for its time. -/
structure HeldEntry where
  entry : RecordedEntry
  delay : Duration

/-- A playback and everything that it has offered and reported. -/
structure Playback where
  rate : Float
  started : Instant
  reader : RecordingReader
  sequencers : Sequencers
  held : Option HeldEntry
  offered : List Packet
  state : PlayerState
  notifications : List Notification

namespace Playback

/-- The name under which the player reports. -/
def workerName : String :=
  "packet-player"

/-- Whether recordings can be played at a rate, which has to be finite and positive. -/
def isValidRate (rate : Float) : Bool :=
  rate.isFinite && 0.0 < rate

/-- The failure of a rate that cannot be played, found under a name. -/
def rateError
    (setting : String)
    (rate : Float) :
    SessionError :=
  .configuration
    (setting ++ " must be positive and finite, got "
      ++ Number.Layout.message.write .double rate.toBits.toNat)

/-- A playback of a recording from an instant on. -/
def start
    (rate : Float)
    (started : Instant)
    (reader : RecordingReader) :
    Playback where
  rate := rate
  started := started
  reader := reader
  sequencers := .start
  held := none
  offered := []
  state := .playing
  notifications := []

/-- How long after the start of a playback an offset is due, if a clock can tell. -/
def delay?
    (rate : Float)
    (started : Instant)
    (offset : Duration) :
    Option Duration :=
  match Duration.ofSeconds? (offset.inSeconds / rate) with
  | none => none
  | some delay =>
      if started.nanoseconds + delay.nanoseconds < UInt64.size / 2 * 1000000000 then
        some delay
      else
        none

/-- The failure of an entry that no clock can time. -/
def timingError
    (rate : Float)
    (offset : Duration) :
    SessionError :=
  .malformedPacket "recording timestamp"
    ("offset " ++ offset.inspect ++ " at rate "
      ++ Number.Layout.message.write .double rate.toBits.toNat ++ " is out of range")

/-- End a playback that cannot go on. -/
def fail
    (playback : Playback)
    (error : SessionError) :
    Playback :=
  { playback with
    state := .failed
    notifications :=
      playback.notifications ++ [.workerStopped workerName error.message] }

/-- Read the next entry. -/
def load (playback : Playback) : Playback :=
  match playback.reader.next with
  | (reader, .error fault) => { playback with reader := reader }.fail fault.toError
  | (reader, .ok none) =>
      { playback with
        reader := reader
        state := .finished
        notifications :=
          playback.notifications ++ [.playbackFinished playback.offered.length] }
  | (reader, .ok (some entry)) =>
      let playback := { playback with reader := reader }
      match delay? playback.rate playback.started entry.offset with
      | none => playback.fail (timingError playback.rate entry.offset)
      | some delay => { playback with held := some ⟨entry, delay⟩ }

/-- Offer the held entry to the sink, under the next number of its stream. -/
def release
    (playback : Playback)
    (held : HeldEntry) :
    Playback :=
  let arrival : Instant := ⟨playback.started.nanoseconds + held.delay.nanoseconds⟩
  let (packet, sequencers) :=
    playback.sequencers.stamp held.entry.kind arrival held.entry.payload
  { playback with
    sequencers := sequencers
    held := none
    offered := playback.offered ++ [packet] }

/-- Take one step. -/
def advance (playback : Playback) : Playback :=
  match playback.state, playback.held with
  | .playing, none => playback.load
  | .playing, some held => playback.release held
  | _, _ => playback

/-- Tell a playback to stop, which gives up the entry in hand. -/
def stop (playback : Playback) : Playback :=
  match playback.state with
  | .playing => { playback with state := .cancelled, held := none }
  | _ => playback

/-- Whether the playback waits for an entry that is not due before a time. -/
def waitsFor
    (playback : Playback)
    (horizon : Duration) :
    Bool :=
  match playback.held with
  | none => false
  | some held => horizon.nanoseconds ≤ held.delay.nanoseconds

/-- Take up to `fuel` steps, none of them beyond a time. -/
def runSteps
    (playback : Playback)
    (horizon : Duration) :
    (fuel : Nat) → Playback
  | 0 => playback
  | fuel + 1 =>
      if playback.waitsFor horizon then
        playback
      else
        playback.advance.runSteps horizon fuel

/-- Run until the playback ends or waits for a time; each entry takes two steps. -/
def runUntil
    (playback : Playback)
    (horizon : Duration) :
    Playback :=
  playback.runSteps horizon (2 * (playback.reader.source.rest.length + 2))

end Playback

/-- A player, with at most one playback at a time. -/
structure Player where
  rate : Float
  state : PlayerState
  playback : Option Playback
  /-- What playbacks that are gone have reported. -/
  reports : List Notification

namespace Player

/-- A player at a rate, which is checked. -/
def create (rate : Float) : Except SessionError Player :=
  if Playback.isValidRate rate then
    .ok
      { rate := rate
        state := .idle
        playback := none
        reports := [] }
  else
    .error (Playback.rateError "playback rate" rate)

/-- Whether a playback is in progress. -/
def isAlive (player : Player) : Bool :=
  match player.playback with
  | none => false
  | some playback => playback.state == .playing

/-- The state of the player as others see it. -/
def currentState (player : Player) : PlayerState :=
  match player.playback with
  | none => player.state
  | some playback => playback.state

/-- The packets that the last playback has offered. -/
def offered (player : Player) : List Packet :=
  match player.playback with
  | none => []
  | some playback => playback.offered

/-- Everything that the playbacks have reported. -/
def notifications (player : Player) : List Notification :=
  player.reports
    ++ (match player.playback with
        | none => []
        | some playback => playback.notifications)

/-- Leave the playback behind; its last state and its reports stay. -/
def join (player : Player) : Player :=
  { player with
    state := player.currentState
    playback := none
    reports := player.notifications }

/-- Play a recording from the position of its reader, leaving behind a playback that has ended. -/
def play
    (player : Player)
    (started : Instant)
    (reader : RecordingReader) :
    Except SessionError Player :=
  if player.isAlive then
    .error (.workerState Playback.workerName "already playing")
  else
    .ok
      { player.join with
        state := .playing
        playback := some (.start player.rate started reader) }

/-- The failure of a recording file that cannot be opened. -/
def openError
    (path : String)
    (fault : StreamFault) :
    SessionError :=
  .sinkFailure ("opening " ++ path) fault

/-- Let the playback run until it ends or waits for a time. -/
def runUntil
    (player : Player)
    (horizon : Duration) :
    Player :=
  { player with playback := player.playback.map fun playback => playback.runUntil horizon }

/-- Tell the playback of a player to stop, if there is one. -/
def stop (player : Player) : Player :=
  { player with playback := player.playback.map Playback.stop }

end Player

end DroneSession
