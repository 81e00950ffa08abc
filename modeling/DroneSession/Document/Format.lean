import DroneSession.Document.Mission
import DroneSession.Document.Record
import DroneSession.Document.Settings

namespace DroneSession

/-!
# Formats of documents

A format holds both directions of one type of documents.  Reading a document and writing what was
read gives the document in its normal form.
-/

namespace Document

open Yaml (Node Decoder)

/-- How the values of a type are read and written. -/
structure Format (α : Type) where
  read : Node → Decoder α
  write : α → Node

namespace Format

variable {α : Type}

/-- The format of a type whose values have names. -/
def ofChoices
    [BEq α]
    (choices : Choices α) :
    Format α where
  read := choices.read
  write := choices.write

/-- The normal form of a document, if it can be read. -/
def normalize?
    (format : Format α)
    (text : String) :
    Option String :=
  (Yaml.read? format.read text).map fun value => (format.write value).render

end Format

/-- The ways to normal forms by the names of the types. -/
def normalizers : List (String × (String → Option String)) :=
  [ ("axis", (Format.ofChoices axes).normalize?),
    ("action", (Format.ofChoices actions).normalize?),
    ("pixel_layout", (Format.ofChoices pixelLayouts).normalize?),
    ("update_rate", (Format.mk readRate writeRate).normalize?),
    ("sensitivity", (Format.ofChoices sensitivities).normalize?),
    ("manual_input", (Format.ofChoices manualInputs).normalize?),
    ("packet_kind", (Format.ofChoices packetKinds).normalize?),
    ("pilot_session", (Format.mk readPilotSession writePilotSession).normalize?),
    ("flight_command", (Format.mk readCommand writeCommand).normalize?),
    ("control_state", (Format.mk readControl writeControl).normalize?),
    ("navdata", (Format.mk readNavigation writeNavigation).normalize?),
    ("intent", (Format.mk readIntent writeIntent).normalize?),
    ("step", (Format.mk readStep writeStep).normalize?) ]

/-- The normal form of a document of a named type, if there is such a type and it can be read. -/
def normalize? (type text : String) : Option String :=
  (normalizers.find? fun entry => entry.1 == type).bind fun entry => entry.2 text

end Document

end DroneSession
