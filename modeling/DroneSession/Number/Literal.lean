import DroneSession.Number.Shortest

namespace DroneSession

/-!
# Reading numbers

Whole numbers are read in any base up to sixteen.  Decimal literals have digits with at most one
point among them and may have an exponent; they read as the nearest double.
-/

-- Powers are the built-in ones, also where other instances are in scope.
attribute [local instance (high)] instPowNat

namespace Number

/-- The value of a digit in the bases up to sixteen. -/
def digitValue? (character : Char) : Option Nat :=
  if '0' ≤ character ∧ character ≤ '9' then some (character.toNat - '0'.toNat)
  else if 'a' ≤ character ∧ character ≤ 'f' then some (character.toNat - 'a'.toNat + 10)
  else if 'A' ≤ character ∧ character ≤ 'F' then some (character.toNat - 'A'.toNat + 10)
  else none

/-- The number from which on a block of digits is full. -/
def blockLimit : Nat :=
  2 ^ (4096 : Nat)

/--
Read further digits behind the value `front * weight + block`, where the block holds the last digits
that were read and `weight` is their power of the base.  As only full blocks meet the front, a long
number takes few products of great factors.
-/
def naturalFrom?
    (base front weight block : Nat) :
    (text : List Char) → Option Nat
  | [] => some (front * weight + block)
  | character :: text =>
      match digitValue? character with
      | none => none
      | some digit =>
          if base ≤ digit then
            none
          else if weight < blockLimit then
            naturalFrom? base front (weight * base) (block * base + digit) text
          else
            naturalFrom? base (front * weight + block) base digit text

/-- The value of a text that consists of at least one digit and nothing else. -/
def natural?
    (base : Nat)
    (text : List Char) :
    Option Nat :=
  if text.isEmpty then none else naturalFrom? base 0 1 0 text

/-- A text without one leading sign, and whether the sign was a minus. -/
def splitSign : List Char → Bool × List Char
  | '-' :: text => (true, text)
  | '+' :: text => (false, text)
  | text => (false, text)

/-- The size from which on an exponent takes no further digits. -/
def exponentLimit : Nat :=
  65536

/--
The size of an exponent that consists of at least one digit and nothing else.  Digits that follow
once it has reached the limit are passed over.
-/
def exponentSize? (digits : List Char) : Option Nat :=
  if ¬ digits.isEmpty ∧ digits.all Char.isDigit then
    some <| digits.foldl
      (fun size digit =>
        if size < exponentLimit then size * 10 + (digit.toNat - '0'.toNat) else size)
      0
  else
    none

/-- Read an exponent behind its mark; none at all is zero. -/
def exponent? : List Char → Option Int
  | [] => some 0
  | mark :: text =>
      if mark = 'e' ∨ mark = 'E' then
        let (negative, digits) := splitSign text
        (exponentSize? digits).map fun size => if negative then -(size : Int) else size
      else
        none

/-- Read a decimal without its sign: digits around a point, and an exponent. -/
def magnitude? (text : List Char) : Option Decimal :=
  let (whole, rest) := text.span Char.isDigit
  let (fraction, rest) :=
    match rest with
    | '.' :: rest => rest.span Char.isDigit
    | rest => ([], rest)
  match natural? 10 (whole ++ fraction), exponent? rest with
  | some digits, some exponent => some ⟨digits, exponent - (fraction.length : Int)⟩
  | _, _ => none

/-- The power of ten from which on a number is beyond all doubles, and its inverse below all. -/
def greatestExponent : Int :=
  400

/--
The bits of the double nearest to a decimal.  Digits with the binary logarithm `log` are at least
`10 ^ (log / 10 * 3)` and less than `10 ^ (log / 3 + 1)`, because `1000 < 1024` and `8 < 10`.
-/
def nearestDouble
    (negative : Bool)
    (decimal : Decimal) :
    Nat :=
  let format := Format.double
  let log := decimal.digits.log2
  if decimal.digits = 0 ∨ decimal.exponent + (log / 3 + 1 : Nat) < -greatestExponent then
    format.withSign negative 0
  else if greatestExponent < decimal.exponent + (log / 10 * 3 : Nat) then
    format.withSign negative format.infinity
  else
    format.nearest negative
      (decimal.digits * 10 ^ decimal.exponent.toNat)
      (10 ^ (-decimal.exponent).toNat)

/-- The double nearest to a decimal literal with an optional sign, unless it would be infinite. -/
def finiteDouble? (text : List Char) : Option Float :=
  let (negative, text) := splitSign text
  match magnitude? text with
  | none => none
  | some decimal =>
      let value := Float.ofBits (nearestDouble negative decimal).toUInt64
      if value.isFinite then some value else none

end Number

end DroneSession
