import DroneSession.Number.Binary

namespace DroneSession

/-!
# Shortest decimal text of a binary value

`shortest?` finds the fewest decimal digits that read back as the same binary value, and of these
the nearest to it.  A `Layout` says how one kind of output writes such digits, and which of two it
takes that are equally near.
-/

-- Powers are the built-in ones, also where other instances are in scope.
attribute [local instance (high)] instPowNat

namespace Number

/-- A positive decimal value `digits * 10 ^ exponent`. -/
structure Decimal where
  digits : Nat
  exponent : Int
  deriving Repr, DecidableEq

/-- The exponent of the leading decimal digit of `numerator / denominator`. -/
def leadingExponent
    (numerator denominator : Nat) :
    Int :=
  if denominator ≤ numerator then
    (decimalLength (numerator / denominator) : Int) - 1
  else
    -(decimalLength ((denominator + numerator - 1) / numerator - 1) : Int)

/-- The open or closed interval of values that a binary format rounds to one value. -/
structure RoundingInterval where
  value : Nat
  low : Nat
  high : Nat
  denominator : Nat
  closed : Bool
  deriving Repr

namespace RoundingInterval

/--
The interval of `mantissa * 2 ^ exponent`.  Below the least mantissa of a binade the neighbour is
only half as far away, and an even mantissa owns both end points.
-/
def ofMantissa
    (format : Format)
    (mantissa : Nat)
    (exponent : Int) :
    RoundingInterval :=
  let unit := 2 ^ (exponent - 2).toNat
  let narrowBelow : Bool :=
    mantissa = 2 ^ format.fractionBits && format.leastExponent < exponent
  { value := 4 * mantissa * unit
    low := (4 * mantissa - (if narrowBelow then 1 else 2)) * unit
    high := (4 * mantissa + 2) * unit
    denominator := 2 ^ (2 - exponent).toNat
    closed := mantissa % 2 = 0 }

/-- Whether `digits * 10 ^ exponent` lies in the interval. -/
def contains
    (interval : RoundingInterval)
    (decimal : Decimal) :
    Bool :=
  let scaled := decimal.digits * 10 ^ decimal.exponent.toNat * interval.denominator
  let factor := 10 ^ (-decimal.exponent).toNat
  if interval.closed then
    interval.low * factor ≤ scaled && scaled ≤ interval.high * factor
  else
    interval.low * factor < scaled && scaled < interval.high * factor

/-- The best of the two neighbours of the value among the decimals with the given exponent. -/
def candidate?
    (interval : RoundingInterval)
    (tie : Tie)
    (exponent : Int) :
    Option Decimal :=
  let numerator := interval.value * 10 ^ (-exponent).toNat
  let denominator := interval.denominator * 10 ^ exponent.toNat
  let below : Decimal := ⟨numerator / denominator, exponent⟩
  let above : Decimal := ⟨numerator / denominator + 1, exponent⟩
  match interval.contains below, interval.contains above with
  | true, true => some ⟨tie.round numerator denominator, exponent⟩
  | true, false => some below
  | false, true => some above
  | false, false => none

/-- Search the grids of one digit, two digits and so on; `fuel` bounds the number of grids. -/
def search
    (interval : RoundingInterval)
    (tie : Tie)
    (exponent : Int) :
    (fuel : Nat) → Option Decimal
  | 0 => none
  | fuel + 1 =>
      match interval.candidate? tie exponent with
      | some decimal => some decimal
      | none => search interval tie (exponent - 1) fuel

end RoundingInterval

/-- Drop the trailing zeros of a decimal; `fuel` bounds their number. -/
def Decimal.normalize
    (decimal : Decimal) :
    (fuel : Nat) → Decimal
  | 0 => decimal
  | fuel + 1 =>
      if decimal.digits ≠ 0 ∧ decimal.digits % 10 = 0 then
        Decimal.normalize ⟨decimal.digits / 10, decimal.exponent + 1⟩ fuel
      else
        decimal

/-- The fewest digits that read back as `mantissa * 2 ^ exponent`; nothing for zero. -/
def shortest?
    (format : Format)
    (tie : Tie)
    (mantissa : Nat)
    (exponent : Int) :
    Option Decimal :=
  if mantissa = 0 then
    none
  else
    let interval := RoundingInterval.ofMantissa format mantissa exponent
    let leading := leadingExponent interval.value interval.denominator
    (interval.search tie leading 20).map fun decimal => decimal.normalize 20

/-- How one kind of output writes a floating value. -/
structure Layout where
  /-- The leading exponents that are written without an exponent mark; none bounds nothing. -/
  positional : Option (Int × Int)
  /-- Which of two equally near decimals is written. -/
  tie : Tie
  /-- Whether a whole number keeps a zero behind the point. -/
  wholeKeepsPoint : Bool
  notANumber : String
  infinity : String
  deriving Repr

namespace Layout

/-- Digits with a point in its place and no exponent mark. -/
def writePositional
    (layout : Layout)
    (decimal : Decimal) :
    String :=
  let digits := Nat.toDigits 10 decimal.digits
  if 0 ≤ decimal.exponent then
    let whole := String.ofList (digits ++ List.replicate decimal.exponent.toNat '0')
    if layout.wholeKeepsPoint then whole ++ ".0" else whole
  else
    let places := (-decimal.exponent).toNat
    let padded := List.replicate (places + 1 - digits.length) '0' ++ digits
    let split := padded.length - places
    String.ofList (padded.take split) ++ "." ++ String.ofList (padded.drop split)

/-- Digits with one of them before the point, followed by the exponent. -/
def writeScientific
    (decimal : Decimal) :
    String :=
  let digits := Nat.toDigits 10 decimal.digits
  let exponent := decimal.exponent + (digits.length : Int) - 1
  let fraction := digits.drop 1
  let point := if fraction.isEmpty then "" else "." ++ String.ofList fraction
  String.ofList (digits.take 1) ++ point ++ "e" ++ toString exponent

/-- Write a decimal with a point or with an exponent, as the layout has it for its size. -/
def writeDecimal
    (layout : Layout)
    (decimal : Decimal) :
    String :=
  match layout.positional with
  | none => layout.writePositional decimal
  | some (least, greatest) =>
      let leading := decimal.exponent + (decimalLength decimal.digits : Int) - 1
      if least ≤ leading ∧ leading ≤ greatest then
        layout.writePositional decimal
      else
        writeScientific decimal

/-- Write the value of a bit pattern with the fewest digits that read back. -/
def write
    (layout : Layout)
    (format : Format)
    (bits : Nat) :
    String :=
  match format.datum bits with
  | .notANumber => layout.notANumber
  | .infinite negative => (if negative then "-" else "") ++ layout.infinity
  | .finite negative mantissa exponent =>
      let sign := if negative then "-" else ""
      match shortest? format layout.tie mantissa exponent with
      | none => sign ++ (if layout.wholeKeepsPoint then "0.0" else "0")
      | some decimal => sign ++ layout.writeDecimal decimal

/-- Plain messages never use an exponent and leave a whole number without a point. -/
def message : Layout where
  positional := none
  tie := .up
  wholeKeepsPoint := false
  notANumber := "NaN"
  infinity := "inf"

/-- Inspection texts keep the point and use an exponent below `1e-4` and from `1e16` on. -/
def inspection : Layout where
  positional := some (-4, 15)
  tie := .up
  wholeKeepsPoint := true
  notANumber := "NaN"
  infinity := "inf"

end Layout

/--
The exact value of a bit pattern rounded to three decimals, a tie to the even digit.  A negative
value keeps its sign even where it rounds to zero.
-/
def fixedThree
    (format : Format)
    (bits : Nat) :
    String :=
  match format.datum bits with
  | .notANumber => "NaN"
  | .infinite negative => if negative then "-inf" else "inf"
  | .finite negative mantissa exponent =>
      let thousandths :=
        roundHalfEven (1000 * mantissa * 2 ^ exponent.toNat) (2 ^ (-exponent).toNat)
      let text := Layout.message.writePositional ⟨thousandths, -3⟩
      (if negative then "-" else "") ++ text

end Number

end DroneSession
