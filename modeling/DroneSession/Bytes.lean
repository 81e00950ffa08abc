namespace DroneSession

/-!
# Little-endian fields

Packets, recordings and video headers hold unsigned fields with the least significant byte first.
`valueOf` and `encode` are inverse to each other on fields of one width.
-/

-- Powers are the built-in ones, also where other instances are in scope.
attribute [local instance (high)] instPowNat

/-- A sequence of octets, the first in front. -/
abbrev Bytes :=
  List UInt8

namespace Bytes

/-- The octets that encode a text. -/
def ofText (text : String) : Bytes :=
  text.toUTF8.toList

/-- The text that bytes stand for, if they stand for any. -/
def text? (bytes : Bytes) : Option String :=
  String.fromUTF8? bytes.toByteArray

/-- The natural number that a little-endian field holds. -/
def valueOf : Bytes → Nat
  | [] => 0
  | byte :: rest => byte.toNat + 256 * valueOf rest

/-- Write a value into `width` bytes; what does not fit is cut off at the top. -/
def encode : (width value : Nat) → Bytes
  | 0, _ => []
  | width + 1, value => UInt8.ofNat (value % 256) :: encode width (value / 256)

/-- The field of `width` bytes at an offset, if the bytes reach that far. -/
def field?
    (bytes : Bytes)
    (offset width : Nat) :
    Option Nat :=
  let field := (bytes.drop offset).take width
  if field.length = width then
    some (valueOf field)
  else
    none

/-- The field of `width` bytes at an offset, bytes beyond the end reading as zero. -/
def field
    (bytes : Bytes)
    (offset width : Nat) :
    Nat :=
  valueOf ((bytes.drop offset).take width)

/-- The half word at an offset; octets that are missing count as zero. -/
def word16
    (bytes : Bytes)
    (offset : Nat) :
    UInt16 :=
  UInt16.ofNat (bytes.field offset 2)

/-- The word at an offset; octets that are missing count as zero. -/
def word32
    (bytes : Bytes)
    (offset : Nat) :
    UInt32 :=
  UInt32.ofNat (bytes.field offset 4)

/-- The double word at an offset; octets that are missing count as zero. -/
def word64
    (bytes : Bytes)
    (offset : Nat) :
    UInt64 :=
  UInt64.ofNat (bytes.field offset 8)

/-- The octets of a half word, the least significant first. -/
def ofWord16 (word : UInt16) : Bytes :=
  encode 2 word.toNat

/-- The octets of a word, the least significant first. -/
def ofWord32 (word : UInt32) : Bytes :=
  encode 4 word.toNat

/-- The octets of a double word, the least significant first. -/
def ofWord64 (word : UInt64) : Bytes :=
  encode 8 word.toNat

/-- The sum of all bytes modulo `2 ^ 32`. -/
def sum (bytes : Bytes) : UInt32 :=
  bytes.foldl (fun total byte => total + byte.toUInt32) 0

/-- An encoded field has the width it was given. -/
@[simp] theorem length_encode
    (width value : Nat) :
    (encode width value).length = width := by
  induction width generalizing value with
  | zero => rfl
  | succ width inductionHypothesis => simp [encode, inductionHypothesis]

/-- Reading an encoded field gives back the part of the value that fits. -/
theorem valueOf_encode
    (width value : Nat) :
    valueOf (encode width value) = value % 256 ^ width := by
  induction width generalizing value with
  | zero => simp [encode, valueOf, Nat.mod_one]
  | succ width inductionHypothesis =>
      have byte : (UInt8.ofNat (value % 256)).toNat = value % 256 := by
        simp
      simp only [encode, valueOf, inductionHypothesis, byte]
      rw [Nat.pow_succ, Nat.mul_comm (256 ^ width) 256, Nat.mod_mul]

end Bytes

end DroneSession
