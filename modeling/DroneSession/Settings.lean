import DroneSession.Recording.Playback
import DroneSession.UpdateRate
import DroneSession.Video.Frame

namespace DroneSession

/-!
# Settings of a session

Every setting has a default, so a session starts from an empty document.
-/

/-- The settings of a session. -/
structure Settings where
  /-- The time between two ticks of the autopilot. -/
  tickMilliseconds : UInt64
  /-- How fast recordings are played; 1 keeps the recorded time. -/
  playbackRate : Float
  /-- The layout that the video decoder has to produce. -/
  pixelLayout : PixelLayout
  /-- Whether dependent pictures are withheld until a keyframe arrives. -/
  resyncOnKeyframe : Bool
  /-- The rate of subscriptions for display. -/
  displayRate : UpdateRate
  /-- Which messages are logged. -/
  logFilter : String

namespace Settings

/-- The settings of an empty document. -/
def standard : Settings where
  tickMilliseconds := 20
  playbackRate := 1.0
  pixelLayout := .bgr24
  resyncOnKeyframe := true
  displayRate := .max 10
  logFilter := "dronewire=info"

instance : Inhabited Settings :=
  ⟨standard⟩

/-- The time between two ticks of the autopilot. -/
def tickInterval (settings : Settings) : Duration :=
  .ofMilliseconds settings.tickMilliseconds

/-- Refuse settings with which no session can run. -/
def validate (settings : Settings) : Except SessionError Unit :=
  if settings.tickMilliseconds = 0 then
    .error (.configuration "autopilot.tick_interval_ms must be at least 1")
  else if Playback.isValidRate settings.playbackRate then
    .ok ()
  else
    .error (Playback.rateError "playback.rate" settings.playbackRate)

end Settings

end DroneSession
