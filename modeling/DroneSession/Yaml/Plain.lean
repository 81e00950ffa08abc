import DroneSession.Number.Literal

namespace DroneSession

/-!
# Plain text as values

Text without quotes stands for a value: nothing, a truth value, a number or else itself.  Typed
fields read one of these forms; `PlainValue.of` decides where the type is open.
-/

-- Powers are the built-in ones, also where other instances are in scope.
attribute [local instance (high)] instPowNat

namespace Yaml

/-- The texts that stand for nothing. -/
def isNull (text : String) : Bool :=
  ["null", "Null", "NULL", "~"].contains text

/-- Read a truth value. -/
def truth? (text : String) : Option Bool :=
  if ["true", "True", "TRUE"].contains text then some true
  else if ["false", "False", "FALSE"].contains text then some false
  else none

/-- Digits that start with a zero, such as `007`, are no number. -/
def isPaddedDigits (text : List Char) : Bool :=
  match (Number.splitSign text).2 with
  | '0' :: digit :: digits => digit.isDigit && digits.all Char.isDigit
  | _ => false

/-- The value of a whole number without a sign, in the base that its start names. -/
def wholeMagnitude? : List Char → Option Nat
  | '0' :: 'x' :: digits => Number.natural? 16 digits
  | '0' :: 'o' :: digits => Number.natural? 8 digits
  | '0' :: 'b' :: digits => Number.natural? 2 digits
  | digits => if isPaddedDigits digits then none else Number.natural? 10 digits

/-- The value of a whole number with an optional sign. -/
def whole? : List Char → Option Int
  | '-' :: text => (wholeMagnitude? text).map fun value => -(value : Int)
  | '+' :: text => (wholeMagnitude? text).map Int.ofNat
  | text => (wholeMagnitude? text).map Int.ofNat

/-- The value of a whole number without a minus. -/
def unsigned? : List Char → Option Nat
  | '+' :: text => wholeMagnitude? text
  | text => wholeMagnitude? text

/-- A whole number of at most 64 bits without a sign. -/
def unsigned64? (text : String) : Option UInt64 :=
  match unsigned? text.toList with
  | none => none
  | some value => if value < UInt64.size then some (UInt64.ofNat value) else none

/-- A whole number of at most 64 bits with a sign. -/
def signed64? (text : String) : Option Int :=
  match whole? text.toList with
  | none => none
  | some value =>
      if Int64.minValue.toInt ≤ value ∧ value ≤ Int64.maxValue.toInt then some value else none

/-- A number with a fraction, an exponent, or one of the names of infinity and of no number. -/
def real? (text : String) : Option Float :=
  let characters := text.toList
  let magnitude :=
    match characters with
    | '+' :: rest => rest
    | rest => rest
  if [".inf", ".Inf", ".INF"].contains (String.ofList magnitude) then
    some (Float.ofBits 0x7ff0000000000000)
  else if ["-.inf", "-.Inf", "-.INF"].contains text then
    some (Float.ofBits 0xfff0000000000000)
  else if [".nan", ".NaN", ".NAN"].contains text then
    some (Float.ofBits 0x7ff8000000000000)
  else
    match characters with
    | '+' :: '+' :: _ => none
    | '+' :: '-' :: _ => none
    | _ => Number.finiteDouble? characters

/-- What plain text stands for where any value may stand. -/
inductive PlainValue where
  | null
  | truth (value : Bool)
  | unsigned (value : UInt64)
  | negative (value : Int)
  /-- A whole number of more than 64 and at most 128 bits. -/
  | oversized
  | real (value : Float)
  | text (value : String)

namespace PlainValue

/-- Read a whole number, which may be too large for anybody. -/
def ofWhole? (text : String) : Option PlainValue :=
  match unsigned? text.toList with
  | some value =>
      if value < UInt64.size then some (.unsigned (UInt64.ofNat value))
      else if value < 2 ^ (128 : Nat) then some .oversized
      else none
  | none =>
      match whole? text.toList with
      | none => none
      | some value =>
          if Int64.minValue.toInt ≤ value then some (.negative value)
          else if -2 ^ (127 : Nat) ≤ value then some .oversized
          else none

/-- What plain text stands for where any value may stand. -/
def of (text : String) : PlainValue :=
  if text.isEmpty || isNull text then
    .null
  else
    match truth? text, ofWhole? text with
    | some value, _ => .truth value
    | none, some value => value
    | none, none =>
        if isPaddedDigits text.toList then
          .text text
        else
          match real? text with
          | some value => .real value
          | none => .text text

end PlainValue

end Yaml

end DroneSession
