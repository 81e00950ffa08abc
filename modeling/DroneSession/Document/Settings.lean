import DroneSession.Document.Choice
import DroneSession.Document.File
import DroneSession.Settings

namespace DroneSession

/-!
# Settings in documents

Settings are grouped into sections.  A section or a setting that is not there has its standard
value, and settings with which no session can run are refused.
-/

namespace Document

open Yaml (Node Decoder)
open Yaml.Decoder (record fieldOr text truth unsigned64 double)

/-- Read one section, starting from the settings so far. -/
def readSection
    (name : String)
    (settings : Settings)
    (read : Yaml.Decoder.Entries → Decoder Settings)
    (entries : Yaml.Decoder.Entries) :
    Decoder Settings :=
  fieldOr name settings (record read) entries

/-- Read settings; what is missing keeps its standard value. -/
def readSettings : Node → Decoder Settings :=
  record fun sections => do
    let settings := Settings.standard
    let settings ← readSection "autopilot" settings
      (fun entries => do
        let value ←
          fieldOr "tick_interval_ms" settings.tickMilliseconds unsigned64 entries
        return { settings with tickMilliseconds := value })
      sections
    let settings ← readSection "playback" settings
      (fun entries => do
        let value ← fieldOr "rate" settings.playbackRate double entries
        return { settings with playbackRate := value })
      sections
    let settings ← readSection "video" settings
      (fun entries => do
        let layout ← fieldOr "pixel_layout" settings.pixelLayout pixelLayouts.read entries
        let resync ← fieldOr "resync_on_keyframe" settings.resyncOnKeyframe truth entries
        return { settings with pixelLayout := layout, resyncOnKeyframe := resync })
      sections
    let settings ← readSection "telemetry" settings
      (fun entries => do
        let value ← fieldOr "ui_rate" settings.displayRate readRate entries
        return { settings with displayRate := value })
      sections
    readSection "logging" settings
      (fun entries => do
        let value ← fieldOr "filter" settings.logFilter text entries
        return { settings with logFilter := value })
      sections

/-- Write settings, all sections and all settings included. -/
def writeSettings (settings : Settings) : Node :=
  writeRecord
    [ ("autopilot",
        writeRecord [("tick_interval_ms", writeWhole settings.tickMilliseconds.toNat)]),
      ("playback", writeRecord [("rate", writeDouble settings.playbackRate)]),
      ("video",
        writeRecord
          [ ("pixel_layout", pixelLayouts.write settings.pixelLayout),
            ("resync_on_keyframe", writeTruth settings.resyncOnKeyframe) ]),
      ("telemetry", writeRecord [("ui_rate", writeRate settings.displayRate)]),
      ("logging", writeRecord [("filter", .ofText settings.logFilter)]) ]

end Document

namespace Settings

/-- Read settings with which a session can run. -/
def ofDocument (text : String) : Except SessionError Settings :=
  match Yaml.read? Document.readSettings text with
  | none => .error .document
  | some settings => settings.validate.map fun _ => settings

/-- The document that holds settings. -/
def toDocument (settings : Settings) : String :=
  (Document.writeSettings settings).render

/-- Load settings from what the file at a path holds. -/
def load
    (path : String)
    (contents : Except StreamFault Bytes) :
    Except SessionError Settings :=
  Document.load "" path ofDocument contents

end Settings

end DroneSession
