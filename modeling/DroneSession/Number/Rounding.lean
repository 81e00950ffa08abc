namespace DroneSession

/-!
# Rounding a quotient

Every decimal text and every conversion between number formats rounds one exact quotient of natural
numbers to the nearest whole number.  Values send a tie to the even neighbour; what becomes of a tie
between two texts of one value is up to the text.
-/

namespace Number

/-- Round `numerator / denominator` to the nearest natural number, a tie to the even one. -/
def roundHalfEven
    (numerator denominator : Nat) :
    Nat :=
  let whole := numerator / denominator
  let twice := 2 * (numerator % denominator)
  if twice < denominator then
    whole
  else if denominator < twice then
    whole + 1
  else
    whole + whole % 2

/-- Round `numerator / denominator` to the nearest natural number, a tie to the greater one. -/
def roundHalfUp
    (numerator denominator : Nat) :
    Nat :=
  let whole := numerator / denominator
  if 2 * (numerator % denominator) < denominator then whole else whole + 1

/-- Where a quotient goes that is as near to one natural number as to the next. -/
inductive Tie where
  | even
  | up
  deriving Repr, DecidableEq

/-- Round `numerator / denominator` to the nearest natural number. -/
def Tie.round : Tie → (numerator denominator : Nat) → Nat
  | .even => roundHalfEven
  | .up => roundHalfUp

/-- The number of decimal digits of a natural number; zero has one digit. -/
def decimalLength (value : Nat) : Nat :=
  (Nat.toDigits 10 value).length

end Number

end DroneSession
