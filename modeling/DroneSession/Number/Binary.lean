import DroneSession.Number.Rounding

namespace DroneSession

/-!
# Binary floating formats

A binary format is fixed by the widths of its two fields.  `Format.datum` reads a bit pattern as an
exact value and `Format.nearest` writes the pattern nearest to an exact quotient, so that reading
decimal text, changing width and taking remainders never leave exact arithmetic.
-/

-- Powers are the built-in ones, also where other instances are in scope.
attribute [local instance (high)] instPowNat

namespace Number

/-- The widths of the two fields below the sign of a binary floating format. -/
structure Format where
  fractionBits : Nat
  exponentBits : Nat
  deriving Repr, DecidableEq

/-- What a bit pattern stands for; a finite value is `mantissa * 2 ^ exponent` with a sign. -/
inductive Datum where
  | notANumber
  | infinite (negative : Bool)
  | finite (negative : Bool) (mantissa : Nat) (exponent : Int)
  deriving Repr, DecidableEq

namespace Format

/-- The format of singles, with 23 bits of fraction. -/
def single : Format where
  fractionBits := 23
  exponentBits := 8

/-- The format of doubles, with 52 bits of fraction. -/
def double : Format where
  fractionBits := 52
  exponentBits := 11

/-- The exponent of the unit in the last place of the smallest positive value. -/
def leastExponent (format : Format) : Int :=
  2 - (2 ^ (format.exponentBits - 1) : Nat) - (format.fractionBits : Int)

/-- The bit pattern of positive infinity, which is above that of every finite value. -/
def infinity (format : Format) : Nat :=
  (2 ^ format.exponentBits - 1) * 2 ^ format.fractionBits

/-- The weight of the sign bit. -/
def signBit (format : Format) : Nat :=
  2 ^ (format.exponentBits + format.fractionBits)

/-- Put a sign in front of a pattern of magnitude. -/
def withSign
    (format : Format)
    (negative : Bool)
    (magnitude : Nat) :
    Nat :=
  if negative then
    format.signBit + magnitude
  else
    magnitude

/-- What bits of a format stand for. -/
def datum
    (format : Format)
    (bits : Nat) :
    Datum :=
  let negative := bits / format.signBit % 2 == 1
  let biased := bits / 2 ^ format.fractionBits % 2 ^ format.exponentBits
  let fraction := bits % 2 ^ format.fractionBits
  if biased = 2 ^ format.exponentBits - 1 then
    if fraction = 0 then
      .infinite negative
    else
      .notANumber
  else if biased = 0 then
    .finite negative fraction format.leastExponent
  else
    .finite negative (2 ^ format.fractionBits + fraction) (format.leastExponent + biased - 1)

/--
The pattern nearest to `numerator / denominator`, a tie to the even pattern; a quotient beyond the
largest finite value becomes infinity.
-/
def nearest
    (format : Format)
    (negative : Bool)
    (numerator denominator : Nat) :
    Nat :=
  if numerator = 0 then
    format.withSign negative 0
  else
    let estimate : Int := (numerator.log2 : Int) - (denominator.log2 : Int)
    let below : Bool :=
      numerator * 2 ^ (-estimate).toNat < denominator * 2 ^ estimate.toNat
    let leading : Int := if below then estimate - 1 else estimate
    let exponent := max (leading - (format.fractionBits : Int)) format.leastExponent
    let mantissa :=
      roundHalfEven (numerator * 2 ^ (-exponent).toNat) (denominator * 2 ^ exponent.toNat)
    let magnitude :=
      (exponent - format.leastExponent).toNat * 2 ^ format.fractionBits + mantissa
    format.withSign negative (min magnitude format.infinity)

/-- The pattern nearest to `mantissa * 2 ^ exponent`. -/
def nearestScaled
    (format : Format)
    (negative : Bool)
    (mantissa : Nat)
    (exponent : Int) :
    Nat :=
  format.nearest negative (mantissa * 2 ^ exponent.toNat) (2 ^ (-exponent).toNat)

end Format

/--
The exact remainder of a division truncated toward zero.  It has the sign of the dividend; an
infinite dividend or a zero divisor has none, and an infinite divisor leaves the dividend.
-/
def remainder
    (dividend divisor : Float32) :
    Float32 :=
  match Format.single.datum dividend.toBits.toNat, Format.single.datum divisor.toBits.toNat with
  | .finite negative mantissa exponent, .finite _ unit unitExponent =>
      if unit = 0 then
        Float32.ofBits 0x7fc00000
      else
        let common := min exponent unitExponent
        let rest :=
          (mantissa * 2 ^ (exponent - common).toNat)
            % (unit * 2 ^ (unitExponent - common).toNat)
        Float32.ofBits (Format.single.nearestScaled negative rest common).toUInt32
  | .finite .., .infinite _ => dividend
  | _, _ => Float32.ofBits 0x7fc00000

/-- Round a double to the nearest single. -/
def narrow (value : Float) : Float32 :=
  match Format.double.datum value.toBits.toNat with
  | .notANumber => Float32.ofBits 0x7fc00000
  | .infinite negative =>
      Float32.ofBits (Format.single.withSign negative Format.single.infinity).toUInt32
  | .finite negative mantissa exponent =>
      Float32.ofBits (Format.single.nearestScaled negative mantissa exponent).toUInt32

/-- Write a single as a double, which is exact. -/
def widen (value : Float32) : Float :=
  match Format.single.datum value.toBits.toNat with
  | .notANumber => Float.ofBits 0x7ff8000000000000
  | .infinite negative =>
      Float.ofBits (Format.double.withSign negative Format.double.infinity).toUInt64
  | .finite negative mantissa exponent =>
      Float.ofBits (Format.double.nearestScaled negative mantissa exponent).toUInt64

/-- The single nearest to an integer. -/
def singleOfInt (value : Int) : Float32 :=
  Float32.ofBits (Format.single.nearest (value < 0) value.natAbs 1).toUInt32

/-- The double nearest to a natural number. -/
def doubleOfNat (value : Nat) : Float :=
  Float.ofBits (Format.double.nearest false value 1).toUInt64

end Number

end DroneSession
