namespace DroneSession

/-!
# Hexadecimal text

Words are shown with lower-case hexadecimal digits, padded with zeros to a fixed width.
-/

namespace Text

/-- The lower-case hexadecimal digits of a value, at least `width` of them. -/
def hexadecimal
    (width value : Nat) :
    String :=
  let digits := Nat.toDigits 16 value
  String.ofList (List.replicate (width - digits.length) '0' ++ digits)

/-- A 32-bit word as eight digits behind `0x`. -/
def word32 (word : UInt32) : String :=
  "0x" ++ hexadecimal 8 word.toNat

/-- A 16-bit word as four digits behind `0x`. -/
def word16 (word : UInt16) : String :=
  "0x" ++ hexadecimal 4 word.toNat

end Text

end DroneSession
