import DroneSession.Number.Shortest

namespace DroneSession

/-!
# Fields for display

Types that a screen shows list their fields by name.  `Field.render` writes such a list as an
indented tree with one line for each field.
-/

mutual

/-- What a field of a record shows. -/
inductive FieldValue where
  | truth (value : Bool)
  | integer (value : Int)
  | real (value : Float)
  | text (value : String)
  | group (fields : List Field)

/-- A named value. -/
inductive Field where
  | mk (name : String) (value : FieldValue)

end

namespace Field

/-- The name of a field. -/
def name : Field → String
  | .mk name _ => name

/-- The value of a field. -/
def value : Field → FieldValue
  | .mk _ value => value

end Field

namespace FieldValue

/-- An unsigned value; what exceeds the signed 64-bit range shows as its end. -/
def ofUnsigned (value : Nat) : FieldValue :=
  .integer (min value Int64.maxValue.toInt)

/-- A single shown as the double that equals it. -/
def ofSingle (value : Float32) : FieldValue :=
  .real (Number.widen value)

/-- The text in which a value is shown. -/
def display : FieldValue → String
  | .truth value => if value then "true" else "false"
  | .integer value => toString value
  | .real value => Number.fixedThree .double value.toBits.toNat
  | .text value => value
  | .group fields => "\x7b" ++ toString fields.length ++ " fields\x7d"

end FieldValue

namespace Field

mutual

/-- The lines of one field below `depth` groups. -/
def lines
    (depth : Nat) :
    Field → List String
  | .mk name value =>
      let indent := String.ofList (List.replicate (2 * depth) ' ')
      match value with
      | .group fields => (indent ++ name) :: linesOfAll (depth + 1) fields
      | .truth value => [indent ++ name ++ ": " ++ FieldValue.display (.truth value)]
      | .integer value => [indent ++ name ++ ": " ++ FieldValue.display (.integer value)]
      | .real value => [indent ++ name ++ ": " ++ FieldValue.display (.real value)]
      | .text value => [indent ++ name ++ ": " ++ value]

/-- The lines of a list of fields below `depth` groups. -/
def linesOfAll
    (depth : Nat) :
    List Field → List String
  | [] => []
  | field :: fields => lines depth field ++ linesOfAll depth fields

end

/-- Write a list of fields as a tree; every line ends with a line break. -/
def render (fields : List Field) : String :=
  String.join ((linesOfAll 0 fields).map fun line => line ++ "\n")

end Field

end DroneSession
