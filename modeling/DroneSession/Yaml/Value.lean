import DroneSession.Yaml.Decoder

namespace DroneSession

/-!
# Values of any type

Where the type of a node depends on another node, it is first decoded as it stands: plain scalars by
what they look like and all others as text.
-/

namespace Yaml

/-- What a node stands for where any value may stand. -/
inductive Value where
  | null
  | truth (value : Bool)
  | unsigned (value : UInt64)
  | negative (value : Int)
  | real (value : Float)
  | text (value : String)
  | sequence (items : List Value)
  | mapping (entries : List (Value × Value))

namespace Value

/-- The value of plain text; whole numbers of more than 64 bits are refused. -/
def ofPlain? : PlainValue → Option Value
  | .null => some .null
  | .truth value => some (.truth value)
  | .unsigned value => some (.unsigned value)
  | .negative value => some (.negative value)
  | .oversized => none
  | .real value => some (.real value)
  | .text value => some (.text value)

/--
The value of a scalar with a tag, which is text unless the tag is that of another type; plain text
keeps its own type under a tag of the application.
-/
def ofTagged?
    (tag : Tag)
    (style : ScalarStyle)
    (written : String) :
    Option Value :=
  if tag = Tag.null then
    if isNull written then some .null else none
  else if tag = Tag.truth then
    (Yaml.truth? written).map .truth
  else if tag = Tag.whole then
    (PlainValue.ofWhole? written).bind ofPlain?
  else if tag = Tag.real then
    (real? written).map .real
  else if tag.isLocal ∧ style = .plain then
    ofPlain? (.of written)
  else
    some (.text written)

/-- What a scalar stands for, by its tag or by the look of its text. -/
def ofScalar?
    (tag : Option Tag)
    (style : ScalarStyle)
    (written : String) :
    Option Value :=
  match tag with
  | some tag => ofTagged? tag style written
  | none => if style = .plain then ofPlain? (.of written) else some (.text written)

/-- Refuse the tags of applications. -/
def refuseNamed (tag : Option Tag) : Decoder Unit :=
  if (tag.bind Tag.name?).isSome then Decoder.refuse else pure ()

/-- Read a scalar where any value may stand. -/
def ofScalar
    (tag : Option Tag)
    (style : ScalarStyle)
    (written : String) :
    Decoder Value := do
  refuseNamed tag
  Decoder.require (ofScalar? tag style written)

/-- Decode a node as it stands, at most `depth` collections deep. -/
def ofNode : (depth : Nat) → (node : Node) → Decoder Value
  | 0, node => do
      match ← Decoder.follow node with
      | .scalar tag style written => ofScalar tag style written
      | _ => Decoder.refuse
  | depth + 1, node => do
      match ← Decoder.follow node with
      | .scalar tag style written => ofScalar tag style written
      | .sequence tag items =>
          refuseNamed tag
          return .sequence (← items.mapM (ofNode depth))
      | .mapping tag entries =>
          refuseNamed tag
          return .mapping
            (← entries.mapM fun (key, value) =>
              return (← ofNode depth key, ← ofNode depth value))
      | .alias _ => Decoder.refuse

/-- Decode a node as it stands, as deep as the place where it is found allows. -/
def decode (node : Node) : Decoder Value := do
  ofNode (← read).depth node

/-- The truth value that a value is. -/
def truth? : Value → Option Bool
  | .truth value => some value
  | _ => none

/-- The single that a value is, as the nearest to a number of another kind. -/
def single? : Value → Option Float32
  | .unsigned value => some (Number.singleOfInt value.toNat)
  | .negative value => some (Number.singleOfInt value)
  | .real value => some (Number.narrow value)
  | _ => none

end Value

end Yaml

end DroneSession
