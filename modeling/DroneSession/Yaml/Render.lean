import DroneSession.Yaml.Written

namespace DroneSession

/-!
# Writing a document

Mappings and sequences are written as blocks.  The entries of a mapping are indented by two spaces
further than the mapping around them, and the dashes of a sequence stand below the key in front of
it.
-/

namespace Yaml

namespace Node

/-- End the line of a scalar, unless the scalar itself has ended it. -/
def endLine (text : String) : String :=
  if text.toList.getLast?.any isBreak then text else text ++ "\n"

/-- Write a scalar behind its tag, with the end of its line. -/
def writeScalar
    (indentation : Nat)
    (tag : Option Tag)
    (style : ScalarStyle)
    (text : String) :
    String :=
  let written := writeText (indentation + 2) style text
  match tag with
  | none => endLine written
  | some tag => endLine (tag.text ++ " " ++ written)

/-- The spaces in front of a line. -/
def margin (indentation : Nat) : String :=
  String.ofList (spaces indentation)

mutual

/-- A node behind a key or a dash at a column, up to the end of its last line. -/
def writeBehind
    (indentation : Nat)
    (dashed : Bool) :
    Node → String
  | .scalar tag style text => " " ++ writeScalar indentation tag style text
  | .alias anchor => " *" ++ toString anchor ++ "\n"
  | .sequence _ [] => " []\n"
  | .mapping _ [] => " \x7b\x7d\n"
  | .sequence _ items =>
      if dashed then
        " " ++ writeItems (indentation + 2) true items
      else
        "\n" ++ writeItems indentation false items
  | .mapping _ entries =>
      if dashed then
        " " ++ writeEntries (indentation + 2) true entries
      else
        "\n" ++ writeEntries (indentation + 2) false entries

/-- The items of a sequence, the first of which may stand in a line that has begun. -/
def writeItems
    (indentation : Nat)
    (begun : Bool) :
    List Node → String
  | [] => ""
  | item :: items =>
      (if begun then "" else margin indentation) ++ "-"
        ++ writeBehind indentation true item
        ++ writeItems indentation false items

/-- The entries of a mapping, the first of which may stand in a line that has begun. -/
def writeEntries
    (indentation : Nat)
    (begun : Bool) :
    List (Node × Node) → String
  | [] => ""
  | (.scalar _ style name, value) :: entries =>
      (if begun then "" else margin indentation) ++ writeText 0 style name ++ ":"
        ++ writeBehind indentation false value
        ++ writeEntries indentation false entries
  | _ :: entries => writeEntries indentation begun entries

end

/-- A document as text; collections lose their tags, and entries need a scalar as their key. -/
def render : Node → String
  | .scalar tag style text => writeScalar 0 tag style text
  | .alias anchor => "*" ++ toString anchor ++ "\n"
  | .sequence _ [] => "[]\n"
  | .sequence _ items => writeItems 0 true items
  | .mapping _ [] => "\x7b\x7d\n"
  | .mapping _ entries => writeEntries 0 true entries

end Node

end Yaml

end DroneSession
