import DroneSession.Flight.Manual
import DroneSession.Packet
import DroneSession.Telemetry.ControlState
import DroneSession.UpdateRate
import DroneSession.Video.Frame
import DroneSession.Yaml.Decoder
import DroneSession.Yaml.Render

namespace DroneSession

/-!
# Names and numbers in documents

Each type with finitely many values has a table of their names, which both directions use.  Numbers
are written with the fewest digits that read back.
-/

namespace Document

open Yaml (Node Decoder)

/-- A table of named values. -/
abbrev Choices (α : Type) : Type :=
  List (String × α)

namespace Choices

variable {α : Type}

/-- Read the name of a value. -/
def read
    (choices : Choices α)
    (node : Node) :
    Decoder α :=
  Yaml.Decoder.choice choices node

/-- The first name that a table has for a value. -/
def name?
    [BEq α]
    (choices : Choices α)
    (value : α) :
    Option String :=
  (choices.find? fun entry => entry.2 == value).map Prod.fst

/-- Write the name of a value. -/
def write
    [BEq α]
    (choices : Choices α)
    (value : α) :
    Node :=
  match choices.name? value with
  | none => .absent
  | some name => .ofText name

end Choices

/-- The names of the axes. -/
def axes : Choices Axis :=
  [("pitch", .pitch), ("roll", .roll), ("yaw", .yaw), ("gaz", .gaz)]

/-- The names of the actions. -/
def actions : Choices DiscreteAction :=
  [("takeoff", .takeoff), ("land", .land), ("flat_trim", .flatTrim), ("hover", .hover)]

/-- The names of the pixel layouts. -/
def pixelLayouts : Choices PixelLayout :=
  [("gray8", .gray8), ("rgb24", .rgb24), ("bgr24", .bgr24), ("bgra32", .bgra32)]

/-- The names of the sensitivities. -/
def sensitivities : Choices Sensitivity :=
  [("normal", .normal), ("precise", .precise)]

/-- The names of held keys. -/
def manualInputs : Choices ManualInput :=
  [ ("forward", .forward), ("backward", .backward), ("left", .left), ("right", .right),
    ("up", .up), ("down", .down), ("turn_left", .turnLeft), ("turn_right", .turnRight) ]

/-- The names of the two streams. -/
def packetKinds : Choices PacketKind :=
  [("Navigation", .navigation), ("Video", .video)]

/-- The names of the control phases that have a meaning. -/
def controlPhases : Choices ControlPhase :=
  ControlPhase.known.map fun phase => (phase.label, phase)

/-- The names of the flying states that have a meaning. -/
def flyingStates : Choices FlyingState :=
  FlyingState.known.map fun state => (state.label, state)

/-- Read a limited rate, which has its limit behind a tag, or the name of the unlimited one. -/
def readRate (node : Node) : Decoder UpdateRate :=
  Yaml.Decoder.choiceOrNumber [("native", .native)] "max"
    (fun number => return .max (← Yaml.Decoder.unsigned32 number)) node

/-- A number behind the name of what it belongs to. -/
def tagged (name : String) (value : Nat) : Node :=
  .scalar (some (.ofName name)) .plain (toString value)

/-- Write a limited rate with its limit behind a tag, and the unlimited one by its name. -/
def writeRate : UpdateRate → Node
  | .native => .ofText "native"
  | .max hertz => tagged "max" hertz.toNat

/-- Read a control phase; one without a meaning has its number behind a tag. -/
def readPhase (node : Node) : Decoder ControlPhase :=
  Yaml.Decoder.choiceOrNumber controlPhases "Unknown"
    (fun number => return .unknown (← Yaml.Decoder.unsigned16 number)) node

/-- Write a control phase by its name, or as a number behind a tag if it has no meaning. -/
def writePhase : ControlPhase → Node
  | .unknown raw => tagged "Unknown" raw.toNat
  | phase => .ofText phase.label

/-- Read a flying state; one without a meaning has its number behind a tag. -/
def readFlying (node : Node) : Decoder FlyingState :=
  Yaml.Decoder.choiceOrNumber flyingStates "Unknown"
    (fun number => return .unknown (← Yaml.Decoder.unsigned16 number)) node

/-- Write a flying state by its name, or as a number behind a tag if it has no meaning. -/
def writeFlying : FlyingState → Node
  | .unknown raw => tagged "Unknown" raw.toNat
  | state => .ofText state.label

/-- Singles keep the point up to twelve digits and use an exponent below `1e-6`. -/
def singleLayout : Number.Layout where
  positional := some (-6, 12)
  tie := .even
  wholeKeepsPoint := true
  notANumber := ".nan"
  infinity := ".inf"

/-- Doubles keep the point up to sixteen digits and use an exponent below `1e-5`. -/
def doubleLayout : Number.Layout where
  positional := some (-5, 15)
  tie := .even
  wholeKeepsPoint := true
  notANumber := ".nan"
  infinity := ".inf"

/-- Write a single with the fewest digits that read back. -/
def writeSingle (value : Float32) : Node :=
  .ofPlain (singleLayout.write .single value.toBits.toNat)

/-- Write a double with the fewest digits that read back. -/
def writeDouble (value : Float) : Node :=
  .ofPlain (doubleLayout.write .double value.toBits.toNat)

/-- Write a whole number with its digits. -/
def writeWhole (value : Int) : Node :=
  .ofPlain (toString value)

/-- Write a truth value. -/
def writeTruth (value : Bool) : Node :=
  .ofPlain (if value then "true" else "false")

/-- Write a record as a mapping of its names to its values. -/
def writeRecord (entries : List (String × Node)) : Node :=
  .mapping none (entries.map fun (name, node) => (.ofText name, node))

/-- Write a list of values. -/
def writeList (items : List Node) : Node :=
  .sequence none items

end Document

end DroneSession
