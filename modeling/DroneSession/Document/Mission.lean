import DroneSession.Autopilot.Mission
import DroneSession.Document.File
import DroneSession.Document.Intent

namespace DroneSession

/-!
# Missions in documents

A mission document lists its steps under `objectives`.  It is refused if a step does not turn into
an objective.
-/

namespace Document

open Yaml (Node Decoder)
open Yaml.Decoder (record field fieldOr optional text list truth unsigned64)

/-- Read a step of a mission; only its duration has to be there. -/
def readStep : Node → Decoder MissionStep :=
  record fun entries => do
    let label ← fieldOr "label" none (optional text) entries
    let milliseconds ← field "duration_ms" unsigned64 entries
    let action ← fieldOr "action" none (optional actions.read) entries
    let intents ← fieldOr "intents" [] (list readIntent) entries
    let earlyExit ← fieldOr "early_exit" false truth entries
    return { label := label
             milliseconds := milliseconds
             action := action
             intents := intents
             earlyExit := earlyExit }

/-- Write a step; what is absent or empty is left out. -/
def writeStep (step : MissionStep) : Node :=
  let label := step.label.toList.map fun label => ("label", Node.ofText label)
  let action := step.action.toList.map fun action => ("action", actions.write action)
  let intents :=
    if step.intents.isEmpty then []
    else [("intents", writeList (step.intents.map writeIntent))]
  writeRecord
    (label
      ++ [("duration_ms", writeWhole step.milliseconds.toNat)]
      ++ action
      ++ intents
      ++ [("early_exit", writeTruth step.earlyExit)])

/-- Read a mission, which is a list of steps. -/
def readMission : Node → Decoder Mission :=
  record fun entries => return ⟨← field "objectives" (list readStep) entries⟩

/-- Write a mission. -/
def writeMission (mission : Mission) : Node :=
  writeRecord [("objectives", writeList (mission.steps.map writeStep))]

end Document

namespace Mission

/-- Read a mission whose steps all turn into objectives. -/
def ofDocument (text : String) : Except SessionError Mission :=
  match Yaml.read? Document.readMission text with
  | none => .error .document
  | some mission => mission.objectives.map fun _ => mission

/-- The document that holds a mission. -/
def toDocument (mission : Mission) : String :=
  (Document.writeMission mission).render

/-- Load a mission from what the file at a path holds. -/
def load
    (path : String)
    (contents : Except StreamFault Bytes) :
    Except SessionError Mission :=
  Document.load "mission " path ofDocument contents

end Mission

end DroneSession
