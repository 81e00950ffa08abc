import DroneSession.Autopilot.Intent
import DroneSession.Document.Choice
import DroneSession.Yaml.Value

namespace DroneSession

/-!
# Intents in documents

An intent names its type, and the type decides which parameters follow.  An intent is a mapping that
holds its type under the key `type`, or a list that starts with its type.
-/

namespace Document

open Yaml (Node Decoder Value)

/-- The type of an intent, without its parameters. -/
inductive IntentType where
  | pitchHold
  | rollHold
  | yawRate
  | verticalSpeed
  | heading
  | altitude
  | velocityX
  | velocityY
  deriving Repr, DecidableEq

/-- The names of the types of intents. -/
def intentTypes : Choices IntentType :=
  [ ("pitch_hold", .pitchHold), ("roll_hold", .rollHold), ("yaw_rate", .yawRate),
    ("vertical_speed", .verticalSpeed), ("heading", .heading), ("altitude", .altitude),
    ("velocity_x", .velocityX), ("velocity_y", .velocityY) ]

namespace IntentType

/-- The names of the parameters in the order in which a list has them. -/
def parameters : IntentType → List String
  | .pitchHold | .rollHold | .yawRate | .verticalSpeed => ["value"]
  | .heading => ["target", "can_be_obtained"]
  | .altitude | .velocityX | .velocityY => ["target"]

/-- The intent with a first parameter and one that only headings have. -/
def build
    (type : IntentType)
    (parameter : Float32)
    (canBeObtained : Bool) :
    Intent :=
  match type with
  | .pitchHold => .pitchHold parameter
  | .rollHold => .rollHold parameter
  | .yawRate => .yawRate parameter
  | .verticalSpeed => .verticalSpeed parameter
  | .heading => .heading parameter canBeObtained
  | .altitude => .altitude parameter
  | .velocityX => .velocityX parameter
  | .velocityY => .velocityY parameter

/-- Take an intent apart into its type, its first parameter and the one that only headings have. -/
def split : Intent → IntentType × Float32 × Option Bool
  | .pitchHold value => (.pitchHold, value, none)
  | .rollHold value => (.rollHold, value, none)
  | .yawRate value => (.yawRate, value, none)
  | .verticalSpeed value => (.verticalSpeed, value, none)
  | .heading target canBeObtained => (.heading, target, some canBeObtained)
  | .altitude target => (.altitude, target, none)
  | .velocityX target => (.velocityX, target, none)
  | .velocityY target => (.velocityY, target, none)

/-- The intent whose parameters were given in their order, some of them perhaps not at all. -/
def ofParameters?
    (type : IntentType)
    (given : List (Option Value)) :
    Option Intent :=
  match given with
  | some first :: others =>
      let canBeObtained :=
        match others with
        | some second :: _ => second.truth?
        | _ => some true
      match first.single?, canBeObtained with
      | some parameter, some canBeObtained => some (type.build parameter canBeObtained)
      | _, _ => none
  | _ => none

end IntentType

/-- The parameter that a key names, by its name or by its place; other names are ignored. -/
def parameterName?
    (names : List String) :
    Value → Option (Option String)
  | .text name => some (some name)
  | .unsigned place => some names[place.toNat]?
  | _ => none

/-- The parameters that the entries of a mapping give, none of them twice. -/
def parametersOfEntries?
    (names : List String)
    (entries : List (Value × Value)) :
    Option (List (Option Value)) := do
  let entries ← entries.mapM fun (key, value) => return (← parameterName? names key, value)
  names.mapM fun name =>
    match entries.filter fun entry => entry.1 == some name with
    | [] => some none
    | [(_, value)] => some (some value)
    | _ => none

/-- The parameters that the items of a list give, of which there must not be too many. -/
def parametersOfItems?
    (names : List String)
    (items : List Value) :
    Option (List (Option Value)) :=
  if names.length < items.length then
    none
  else
    some ((List.range names.length).map fun place => items[place]?)

/-- Read the type of an intent. -/
def readIntentType (node : Node) : Decoder IntentType := do
  let name ← Yaml.Decoder.text node
  Yaml.Decoder.require ((intentTypes.find? fun entry => entry.1 == name).map Prod.snd)

/-- Whether a key is the one that the type of an intent stands under. -/
def isTypeKey (key : Value) : Bool :=
  match key with
  | .text name => name == "type"
  | _ => false

/-- Read the entries of an intent; the type is found among the others. -/
def readIntentEntries (entries : List (Node × Node)) : Decoder Intent := do
  let keyed ← entries.mapM fun (key, node) => return (← Value.decode key, node)
  let types := keyed.filter fun entry => isTypeKey entry.1
  let others := keyed.filter fun entry => !isTypeKey entry.1
  match types with
  | [(_, node)] =>
      let type ← readIntentType node
      let others ← others.mapM fun (key, node) => return (key, ← Value.decode node)
      let given ← Yaml.Decoder.require (parametersOfEntries? type.parameters others)
      Yaml.Decoder.require (type.ofParameters? given)
  | _ => Yaml.Decoder.refuse

/-- Read the items of an intent, the first of which is its type. -/
def readIntentItems (items : List Node) : Decoder Intent := do
  match items with
  | [] => Yaml.Decoder.refuse
  | node :: others =>
      let type ← readIntentType node
      let others ← others.mapM Value.decode
      let given ← Yaml.Decoder.require (parametersOfItems? type.parameters others)
      Yaml.Decoder.require (type.ofParameters? given)

/-- Read an intent from its entries by name, or from its items in order. -/
def readIntent (node : Node) : Decoder Intent := do
  match ← Yaml.Decoder.follow node with
  | .mapping tag entries =>
      Value.refuseNamed tag
      Yaml.Decoder.enter (readIntentEntries entries)
  | .sequence tag items =>
      Value.refuseNamed tag
      Yaml.Decoder.enter (readIntentItems items)
  | _ => Yaml.Decoder.refuse

/-- Write an intent, its parameters under their names. -/
def writeIntent (intent : Intent) : Node :=
  let (type, parameter, canBeObtained) := IntentType.split intent
  let given := writeSingle parameter :: canBeObtained.toList.map writeTruth
  writeRecord (("type", intentTypes.write type) :: type.parameters.zip given)

end Document

end DroneSession
