import DroneSession.Bytes

namespace DroneSession

/-!
# Fields in a sequence of bytes

A field at an offset and the bytes written for a value are two views of one thing: bytes start with
what is written for a value exactly if they are long enough and their first field reads as it.
-/

-- Powers are the built-in ones, also where other instances are in scope.
attribute [local instance (high)] instPowNat

namespace Bytes

/-- Bytes stand for a number that they have room for. -/
theorem valueOf_lt (bytes : Bytes) :
    valueOf bytes < 256 ^ bytes.length := by
  induction bytes with
  | nil =>
      simp [valueOf]
  | cons byte rest inductionHypothesis =>
      have byteLess := byte.toNat_lt
      simp only [valueOf, List.length_cons, Nat.pow_succ]
      omega

/-- Encoding what a field holds gives back its bytes. -/
theorem encode_valueOf (bytes : Bytes) :
    encode bytes.length (valueOf bytes) = bytes := by
  induction bytes with
  | nil =>
      rfl
  | cons byte rest inductionHypothesis =>
      have byteLess := byte.toNat_lt
      have low : (byte.toNat + 256 * valueOf rest) % 256 = byte.toNat := by
        omega
      have high : (byte.toNat + 256 * valueOf rest) / 256 = valueOf rest := by
        omega
      rw [valueOf, List.length_cons, encode, low, high, inductionHypothesis, UInt8.ofNat_toNat]

theorem eq_append_iff
    {bytes first rest : Bytes} :
    bytes = first ++ rest ↔
      first.length ≤ bytes.length ∧
      bytes.take first.length = first ∧
      bytes.drop first.length = rest := by
  constructor
  · rintro rfl
    exact ⟨by simp, List.take_left' rfl, List.drop_left' rfl⟩
  · rintro ⟨-, start, remainder⟩
    have rejoined := List.take_append_drop first.length bytes
    rw [start, remainder] at rejoined
    exact rejoined.symm

/-- What stands at an offset moves to the bytes before the offset when it is passed. -/
theorem take_add_of_drop
    {bytes first rest : Bytes}
    {offset : Nat}
    (written : bytes.drop offset = first ++ rest) :
    bytes.take (offset + first.length) = bytes.take offset ++ first := by
  rw [List.take_add, written, List.take_left' rfl]

/-- What follows a part of some bytes starts where the part ends. -/
theorem drop_add_of_drop
    {bytes first rest : Bytes}
    {offset : Nat}
    (written : bytes.drop offset = first ++ rest) :
    bytes.drop (offset + first.length) = rest := by
  rw [← List.drop_drop, written, List.drop_left' rfl]

/-- Bytes start with a written value exactly if their first field reads as it. -/
theorem eq_encode_append_iff
    {bytes rest : Bytes}
    {width value : Nat}
    (fits : value < 256 ^ width) :
    bytes = encode width value ++ rest ↔
      width ≤ bytes.length ∧ valueOf (bytes.take width) = value ∧ bytes.drop width = rest := by
  rw [eq_append_iff, length_encode]
  constructor
  · rintro ⟨long, start, remainder⟩
    refine ⟨long, ?_, remainder⟩
    rw [start, valueOf_encode, Nat.mod_eq_of_lt fits]
  · rintro ⟨long, rfl, remainder⟩
    refine ⟨long, ?_, remainder⟩
    have taken : (bytes.take width).length = width := by
      rw [List.length_take, Nat.min_eq_left long]
    have written := encode_valueOf (bytes.take width)
    rw [taken] at written
    exact written.symm

/-- A number that was written at an offset is the field there. -/
theorem field_of_drop
    {bytes rest : Bytes}
    {offset width value : Nat}
    (fits : value < 256 ^ width)
    (written : bytes.drop offset = encode width value ++ rest) :
    bytes.field offset width = value :=
  ((eq_encode_append_iff fits).mp written).2.1

/-- A field of the first bytes is the field of all of them. -/
theorem field_take
    {bytes : Bytes}
    {count offset width : Nat}
    (inside : offset + width ≤ count) :
    field (bytes.take count) offset width = bytes.field offset width := by
  have enough : min width (count - offset) = width := by
    omega
  rw [field, field, List.drop_take, List.take_take, enough]

/-- A field holds no more than it has room for. -/
theorem field_lt
    (bytes : Bytes)
    (offset width : Nat) :
    bytes.field offset width < 256 ^ width := by
  have bound := valueOf_lt ((bytes.drop offset).take width)
  have short : ((bytes.drop offset).take width).length ≤ width := List.length_take_le ..
  exact Nat.lt_of_lt_of_le bound (Nat.pow_le_pow_right (by decide) short)

/-- The bytes from one position to another, if they all lie inside. -/
def slice?
    (bytes : Bytes)
    (start stop : Nat) :
    Option Bytes :=
  if start ≤ stop ∧ stop ≤ bytes.length then
    some ((bytes.drop start).take (stop - start))
  else
    none

/-- Bytes that are there can be cut out. -/
theorem slice?_eq_some
    {bytes : Bytes}
    {start count : Nat}
    (inside : start + count ≤ bytes.length) :
    bytes.slice? start (start + count) = some ((bytes.drop start).take count) := by
  rw [slice?, if_pos ⟨Nat.le_add_right start count, inside⟩, Nat.add_sub_cancel_left]

/-- A field that is there can be read. -/
theorem field?_eq_some
    {bytes : Bytes}
    {offset width : Nat}
    (inside : offset + width ≤ bytes.length) :
    bytes.field? offset width = some (bytes.field offset width) := by
  have whole : ((bytes.drop offset).take width).length = width := by
    rw [List.length_take, List.length_drop]
    omega
  rw [field?, if_pos whole, field]

/-- A 16-bit word stands at an offset exactly if the word at the offset is it. -/
theorem drop_eq_ofWord16_append_iff
    {bytes rest : Bytes}
    {offset : Nat}
    {word : UInt16} :
    bytes.drop offset = ofWord16 word ++ rest ↔
      offset + 2 ≤ bytes.length ∧ bytes.word16 offset = word ∧ bytes.drop (offset + 2) = rest := by
  have bound := bytes.field_lt offset 2
  rw [ofWord16, eq_encode_append_iff word.toNat_lt, List.length_drop, List.drop_drop, ← field,
    word16, ← UInt16.toNat_inj, UInt16.toNat_ofNat_of_lt' bound]
  have longEnough : 2 ≤ bytes.length - offset ↔ offset + 2 ≤ bytes.length := by
    omega
  rw [longEnough]

/-- A 32-bit word stands at an offset exactly if the word at the offset is it. -/
theorem drop_eq_ofWord32_append_iff
    {bytes rest : Bytes}
    {offset : Nat}
    {word : UInt32} :
    bytes.drop offset = ofWord32 word ++ rest ↔
      offset + 4 ≤ bytes.length ∧ bytes.word32 offset = word ∧ bytes.drop (offset + 4) = rest := by
  have bound := bytes.field_lt offset 4
  rw [ofWord32, eq_encode_append_iff word.toNat_lt, List.length_drop, List.drop_drop, ← field,
    word32, ← UInt32.toNat_inj, UInt32.toNat_ofNat_of_lt' bound]
  have longEnough : 4 ≤ bytes.length - offset ↔ offset + 4 ≤ bytes.length := by
    omega
  rw [longEnough]

/-- A 64-bit word stands at an offset exactly if the word at the offset is it. -/
theorem drop_eq_ofWord64_append_iff
    {bytes rest : Bytes}
    {offset : Nat}
    {word : UInt64} :
    bytes.drop offset = ofWord64 word ++ rest ↔
      offset + 8 ≤ bytes.length ∧ bytes.word64 offset = word ∧ bytes.drop (offset + 8) = rest := by
  have bound := bytes.field_lt offset 8
  rw [ofWord64, eq_encode_append_iff word.toNat_lt, List.length_drop, List.drop_drop, ← field,
    word64, ← UInt64.toNat_inj, UInt64.toNat_ofNat_of_lt' bound]
  have longEnough : 8 ≤ bytes.length - offset ↔ offset + 8 ≤ bytes.length := by
    omega
  rw [longEnough]

theorem eq_ofWord32_append_iff
    {bytes rest : Bytes}
    {word : UInt32} :
    bytes = ofWord32 word ++ rest ↔
      4 ≤ bytes.length ∧ bytes.word32 0 = word ∧ bytes.drop 4 = rest := by
  have atStart := @drop_eq_ofWord32_append_iff bytes rest 0 word
  simpa only [List.drop_zero, Nat.zero_add] using atStart

end Bytes

end DroneSession
