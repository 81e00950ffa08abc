import DroneSession.Recording.Playback

namespace DroneSession

/-!
# A player and those who use it

The thread of a player takes turns with its owner and with those who stop it.  The thread looks
whether it was told to stop before it reads an entry and while it waits for the time of one; with
its next turn it then reads or releases the entry, even if it is told to stop in between.

A system that refuses the thread of a player, or the clock that the thread waits by, is left out:
every playback that is allowed to start has both.
-/

/-- A consumer of packets as a function of a state of its own. -/
structure PacketSink (σ : Type) where
  /-- Take a packet; the answer is whether it was accepted. -/
  accept : σ → Packet → σ × Bool

/-- Offer packets one after another. -/
def PacketSink.acceptAll
    {σ : Type}
    (sink : PacketSink σ)
    (state : σ) :
    List Packet → σ × List Bool
  | [] => (state, [])
  | packet :: packets =>
      let (state, answer) := sink.accept state packet
      let (state, answers) := sink.acceptAll state packets
      (state, answer :: answers)

/-- The packet that a playback offers with its next step. -/
def Playback.nextPacket? (playback : Playback) : Option Packet :=
  match playback.state, playback.held with
  | .playing, some held =>
      let arrival : Instant := ⟨playback.started.nanoseconds + held.delay.nanoseconds⟩
      some (playback.sequencers.stamp held.entry.kind arrival held.entry.payload).1
  | _, _ => none

/-- A player, the sink that it offers packets to, and what its thread has been told. -/
structure PlayerDeck (σ : Type) where
  player : Player
  state : σ
  /-- Whether the playback was told to stop. -/
  cancelled : Bool
  /-- Whether the thread has looked, was not told to stop, and goes on to read or to release. -/
  cleared : Bool

/-- What can happen to a playback. -/
inductive PlaybackMove where
  /-- Somebody tells the player to stop. -/
  | stop
  /-- The thread takes a turn. -/
  | turn
  deriving DecidableEq

/-- What can happen to a player. -/
inductive PlayerStep where
  | play (started : Instant) (reader : RecordingReader)
  | move (move : PlaybackMove)
  /-- The owner joins the thread if it has ended. -/
  | join

namespace PlayerDeck

variable {σ : Type}

/-- A player that has not played yet. -/
def create
    (rate : Float)
    (state : σ) :
    Except SessionError (PlayerDeck σ) :=
  match Player.create rate with
  | .error error => .error error
  | .ok player =>
      .ok
        { player := player
          state := state
          cancelled := false
          cleared := false }

/-- Play a recording with a new token to stop it; a player that is playing does not. -/
def play
    (deck : PlayerDeck σ)
    (started : Instant)
    (reader : RecordingReader) :
    PlayerDeck σ :=
  match deck.player.play started reader with
  | .error _ => deck
  | .ok player =>
      { deck with
        player := player
        cancelled := false
        cleared := false }

/-- Read or release an entry; what the sink answers to a packet does not matter. -/
def advance
    (sink : PacketSink σ)
    (deck : PlayerDeck σ)
    (playback : Playback) :
    PlayerDeck σ :=
  { deck with
    player := { deck.player with playback := some playback.advance }
    state := (sink.acceptAll deck.state playback.nextPacket?.toList).1
    cleared := false }

/-- A turn of the thread, which has ended if the playback has. -/
def turn
    (sink : PacketSink σ)
    (deck : PlayerDeck σ) :
    PlayerDeck σ :=
  match deck.player.playback with
  | none => deck
  | some playback =>
      if playback.state ≠ .playing then
        deck
      else if deck.cleared then
        deck.advance sink playback
      else if deck.cancelled then
        { deck with player := deck.player.stop }
      else
        { deck with cleared := true }

/-- The deck after one move. -/
def perform
    (sink : PacketSink σ)
    (deck : PlayerDeck σ) :
    PlaybackMove → PlayerDeck σ
  | .stop => { deck with cancelled := true }
  | .turn => deck.turn sink

/-- The deck after some moves. -/
def moves
    (sink : PacketSink σ)
    (deck : PlayerDeck σ)
    (moves : List PlaybackMove) :
    PlayerDeck σ :=
  moves.foldl (perform sink) deck

/-- The owner joins a thread that has ended; one that goes on is not waited for here. -/
def join (deck : PlayerDeck σ) : PlayerDeck σ :=
  if deck.player.isAlive then
    deck
  else
    { deck with player := deck.player.join }

/-- The deck after one step. -/
def step
    (sink : PacketSink σ)
    (deck : PlayerDeck σ) :
    PlayerStep → PlayerDeck σ
  | .play started reader => deck.play started reader
  | .move move => deck.perform sink move
  | .join => deck.join

/-- The deck after some steps. -/
def run
    (sink : PacketSink σ)
    (deck : PlayerDeck σ)
    (steps : List PlayerStep) :
    PlayerDeck σ :=
  steps.foldl (step sink) deck

end PlayerDeck

end DroneSession
