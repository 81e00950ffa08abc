import DroneSession.Bytes

namespace DroneSession

/-!
# Tags of nodes

A tag states the type of a node.  It belongs to the application if it starts with an exclamation
mark, and to the language of documents otherwise.  The octets of a tag need not be text; such a tag
names nothing.
-/

namespace Yaml

/-- The tag of a node. -/
inductive Tag where
  | readable (text : String)
  /-- A tag whose octets are no text; it still may belong to the application. -/
  | unreadable (isLocal : Bool)
  deriving Repr, DecidableEq

namespace Tag

/-- The tag with these octets. -/
def ofOctets (octets : Bytes) : Tag :=
  match octets.text? with
  | some text => .readable text
  | none => .unreadable (octets.head? == some '!'.toUInt8)

/-- The tag of an application that has a name. -/
def ofName (name : String) : Tag :=
  .readable ("!" ++ name)

/-- The text of a tag. -/
def text : Tag → String
  | .readable text => text
  | .unreadable _ => ""

/-- The tag of nothing. -/
def null : Tag :=
  .readable "tag:yaml.org,2002:null"

/-- The tag of truth values. -/
def truth : Tag :=
  .readable "tag:yaml.org,2002:bool"

/-- The tag of whole numbers. -/
def whole : Tag :=
  .readable "tag:yaml.org,2002:int"

/-- The tag of numbers that need not be whole. -/
def real : Tag :=
  .readable "tag:yaml.org,2002:float"

/-- The name that a tag of the application gives, if it is readable. -/
def name? (tag : Tag) : Option String :=
  match tag.text.toList with
  | '!' :: name => some (String.ofList name)
  | _ => none

/-- Whether a tag belongs to the application. -/
def isLocal : Tag → Bool
  | .readable text => text.toList.head? == some '!'
  | .unreadable isLocal => isLocal

end Tag

end Yaml

end DroneSession
