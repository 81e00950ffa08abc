import DroneSession.Document.Choice
import DroneSession.Proofs.Number.Digits
import DroneSession.Proofs.Yaml.PlainScalar

namespace DroneSession

/-!
# Numbers in documents

Numbers are written with characters that mean nothing else in a document, so they stand there as
they are.  Whole numbers read back from their digits.
-/

namespace Document

open Yaml (IsPlain forall_mem_of_all isPrintable isSpace isIndicator isWordText
  Writable.startsAsIndicator Writable.startsAsMark Writable.separates unsigned64?)
open Number (Layout)

/-- The characters of numbers. -/
def numerals : List Char :=
  "0123456789-.einfa".toList

/-- The text of a number behind its sign. -/
structure IsMagnitude (text : List Char) : Prop where
  numeral : ∀ character ∈ text, character ∈ numerals
  starts : ∃ first ∈ text.head?, first.isDigit = true

/-- Every digit is a character of numbers. -/
theorem mem_numerals_of_isDigit
    {character : Char}
    (digit : character.isDigit = true) :
    character ∈ numerals := by
  have spelled : ∀ code : Fin 10, Char.ofNat (48 + code) ∈ numerals := by
    decide
  have bounds : 48 ≤ character.toNat ∧ character.toNat ≤ 57 := by
    simpa [Char.isDigit, UInt32.le_iff_toNat_le] using digit
  have here := spelled ⟨character.toNat - 48, by omega⟩
  have same : 48 + (character.toNat - 48) = character.toNat := by
    omega
  rwa [same, Char.ofNat_toNat] at here

/-- A text of nothing but characters of numbers is one word. -/
theorem isWordText_of_numerals
    {text : List Char}
    (numeral : ∀ character ∈ text, character ∈ numerals) :
    isWordText text = true := by
  have known : ∀ character ∈ numerals, isSpace character = false ∧ (character == ':') = false := by
    exact forall_mem_of_all (by decide)
  induction text with
  | nil => rfl
  | cons character rest inductionHypothesis =>
      obtain ⟨solid, noColon⟩ := known character (numeral character List.mem_cons_self)
      rw [isWordText, solid, noColon,
        inductionHypothesis fun other member => numeral other (List.mem_cons_of_mem _ member)]
      rfl

/-- A number stands in a document as it is. -/
theorem IsMagnitude.isPlain
    {text : List Char}
    (magnitude : IsMagnitude text)
    (negative : Bool) :
    IsPlain ((if negative then ['-'] else []) ++ text) := by
  have printable : ∀ character ∈ numerals, isPrintable character = true := by
    exact forall_mem_of_all (by decide)
  have opening :
      ∀ character ∈ numerals,
        character.isDigit = true →
        character ≠ '-' ∧ character ≠ '.' ∧ isSpace character = false ∧
          ['-', '?', ':'].contains character = false ∧ isIndicator character = false := by
    exact forall_mem_of_all (by decide)
  have numeral :
      ∀ character ∈ (if negative then ['-'] else []) ++ text, character ∈ numerals := by
    intro character member
    rcases List.mem_append.mp member with sign | inText
    · cases negative with
      | false => cases sign
      | true =>
          rw [List.mem_singleton.mp sign]
          decide
    · exact magnitude.numeral character inText
  obtain ⟨first, head, digit⟩ := magnitude.starts
  obtain ⟨rest, rfl⟩ := List.head?_eq_some_iff.mp head
  obtain ⟨noDash, noPoint, solid, noSeparator, noIndicator⟩ :=
    opening first (magnitude.numeral first List.mem_cons_self) digit
  have nonempty : (if negative then ['-'] else []) ++ first :: rest ≠ [] := by
    simp
  refine ⟨fun character member => printable character (numeral character member),
    .word nonempty (isWordText_of_numerals numeral), ?_, ?_⟩
  · cases negative <;> simp [Writable.startsAsMark, List.isPrefixOf, noDash.symm, noPoint.symm]
  · cases negative with
    | false =>
        change (if ['-', '?', ':'].contains first then _ else isIndicator first) = _
        rw [noSeparator, if_neg Bool.false_ne_true, noIndicator]
    | true => simp [Writable.startsAsIndicator, Writable.separates, solid]

/-- Digits alone are a number. -/
theorem isMagnitude_of_digits
    {text : List Char}
    (nonempty : text ≠ [])
    (digits : ∀ character ∈ text, character.isDigit = true) :
    IsMagnitude text := by
  obtain ⟨first, rest, rfl⟩ := List.exists_cons_of_ne_nil nonempty
  exact ⟨fun character member => mem_numerals_of_isDigit (digits character member),
    first, rfl, digits first List.mem_cons_self⟩

theorem IsMagnitude.append
    {text later : List Char}
    (magnitude : IsMagnitude text)
    (numeral : ∀ character ∈ later, character ∈ numerals) :
    IsMagnitude (text ++ later) := by
  obtain ⟨first, head, digit⟩ := magnitude.starts
  refine ⟨?_, first, ?_, digit⟩
  · intro character member
    rcases List.mem_append.mp member with inText | inLater
    · exact magnitude.numeral character inText
    · exact numeral character inLater
  · rw [List.head?_append, Option.mem_def.mp head]
    rfl

/-- The digits of a whole number are digits. -/
theorem isDigit_of_mem_toDigits
    {value : Nat}
    {character : Char}
    (member : character ∈ Nat.toDigits 10 value) :
    character.isDigit = true :=
  Nat.isDigit_of_mem_toDigits (by decide) (by decide) member

theorem isDigit_of_mem_zeros
    {count : Nat}
    {character : Char}
    (member : character ∈ List.replicate count '0') :
    character.isDigit = true := by
  rw [List.eq_of_mem_replicate member]
  rfl

/-- A number with a point is a number without its sign. -/
theorem isMagnitude_writePositional
    (layout : Layout)
    (decimal : Number.Decimal) :
    IsMagnitude (layout.writePositional decimal).toList := by
  rw [Layout.writePositional]
  dsimp only
  split
  · have whole :
        IsMagnitude
          (Nat.toDigits 10 decimal.digits ++ List.replicate decimal.exponent.toNat '0') := by
      refine isMagnitude_of_digits (by simp [Nat.toDigits_ne_nil]) ?_
      intro character member
      rcases List.mem_append.mp member with digit | zero
      · exact isDigit_of_mem_toDigits digit
      · exact isDigit_of_mem_zeros zero
    split
    · rw [String.toList_append, String.toList_ofList]
      exact whole.append (forall_mem_of_all (by decide))
    · rwa [String.toList_ofList]
  · generalize places_eq : (-decimal.exponent).toNat = places
    generalize padded_eq :
      List.replicate (places + 1 - (Nat.toDigits 10 decimal.digits).length) '0'
        ++ Nat.toDigits 10 decimal.digits = padded
    have digits : ∀ character ∈ padded, character.isDigit = true := by
      rw [← padded_eq]
      intro character member
      rcases List.mem_append.mp member with zero | digit
      · exact isDigit_of_mem_zeros zero
      · exact isDigit_of_mem_toDigits digit
    have long : places < padded.length := by
      rw [← padded_eq, List.length_append, List.length_replicate]
      omega
    have whole : IsMagnitude (padded.take (padded.length - places)) := by
      refine isMagnitude_of_digits ?_ ?_
      · rw [← List.length_pos_iff, List.length_take]
        omega
      · exact fun character member => digits character (List.mem_of_mem_take member)
    simp only [String.toList_append, String.toList_ofList]
    refine (whole.append (forall_mem_of_all (by decide))).append ?_
    exact fun character member =>
      mem_numerals_of_isDigit (digits character (List.mem_of_mem_drop member))

/-- A whole number is written as its decimal digits. -/
theorem toList_toString_nat (value : Nat) : (toString value).toList = Nat.toDigits 10 value := by
  simp [toString, Nat.repr]

/-- A number with an exponent is a number without its sign. -/
theorem isMagnitude_writeScientific
    (decimal : Number.Decimal) :
    IsMagnitude (Layout.writeScientific decimal).toList := by
  have digits :
      ∀ character ∈ Nat.toDigits 10 decimal.digits, character.isDigit = true :=
    fun character => isDigit_of_mem_toDigits
  have first : IsMagnitude ((Nat.toDigits 10 decimal.digits).take 1) := by
    refine isMagnitude_of_digits ?_ ?_
    · rw [Ne, List.take_eq_nil_iff, not_or]
      exact ⟨by decide, Nat.toDigits_ne_nil⟩
    · exact fun character member => digits character (List.mem_of_mem_take member)
  have exponent : ∀ value : Int, ∀ character ∈ (toString value).toList, character ∈ numerals := by
    have natural : ∀ value : Nat, ∀ character ∈ (toString value).toList, character ∈ numerals := by
      intro value character member
      rw [toList_toString_nat] at member
      exact mem_numerals_of_isDigit (isDigit_of_mem_toDigits member)
    intro value
    cases value with
    | ofNat value => exact natural value
    | negSucc value =>
        have written : toString (Int.negSucc value) = "-" ++ toString (value + 1) :=
          rfl
        rw [written, String.toList_append]
        intro character member
        rcases List.mem_append.mp member with sign | digit
        · rw [List.mem_singleton.mp sign]
          decide
        · exact natural (value + 1) character digit
  rw [Layout.writeScientific]
  simp only [String.toList_append, String.toList_ofList]
  refine ((first.append ?_).append (forall_mem_of_all (by decide))).append (exponent _)
  intro character member
  split at member
  · cases member
  · simp only [String.toList_append, String.toList_ofList] at member
    rcases List.mem_append.mp member with point | fraction
    · rw [List.mem_singleton.mp point]
      decide
    · exact mem_numerals_of_isDigit (digits character (List.mem_of_mem_drop fraction))

/-- A decimal is written as a number without its sign, with a point or with an exponent. -/
theorem isMagnitude_writeDecimal
    (layout : Layout)
    (decimal : Number.Decimal) :
    IsMagnitude (layout.writeDecimal decimal).toList := by
  rw [Layout.writeDecimal]
  split
  · exact isMagnitude_writePositional layout decimal
  · dsimp only
    split
    · exact isMagnitude_writePositional layout decimal
    · exact isMagnitude_writeScientific decimal

/-- The text of a floating value stands in a document as it is. -/
theorem isPlain_write
    (layout : Layout)
    (format : Number.Format)
    (bits : Nat)
    (notANumber : layout.notANumber = ".nan")
    (infinity : layout.infinity = ".inf") :
    IsPlain (layout.write format bits).toList := by
  have signed :
      ∀ (negative : Bool) (text : String),
        ((if negative then "-" else "") ++ text).toList =
          (if negative then ['-'] else []) ++ text.toList := by
    intro negative text
    cases negative <;> simp
  rw [Layout.write]
  split
  · rw [notANumber]
    exact .of_writable (by decide) (by decide)
  · rw [infinity]
    split <;> exact .of_writable (by decide) (by decide)
  · dsimp only
    split
    · rw [signed]
      refine IsMagnitude.isPlain ?_ _
      split <;> exact ⟨forall_mem_of_all (by decide), '0', rfl, rfl⟩
    · rw [signed]
      exact (isMagnitude_writeDecimal layout _).isPlain _

/-! ## Whole numbers -/

/-- A whole number is written as it is. -/
theorem isPlain_toString (value : Nat) : IsPlain (toString value).toList := by
  have magnitude : IsMagnitude (toString value).toList := by
    rw [toList_toString_nat]
    exact isMagnitude_of_digits Nat.toDigits_ne_nil fun _ => isDigit_of_mem_toDigits
  exact magnitude.isPlain false

/-- The digits of a whole number read back. -/
theorem natural?_toString (value : Nat) :
    Number.natural? 10 (toString value).toList = some value := by
  have spells : ∀ digit < 10, Number.digitValue? (id digit.digitChar) = some digit := by
    decide
  have read := Number.natural?_toDigits (by decide) spells 0 value
  rwa [List.map_id, List.replicate_zero, List.nil_append, ← toList_toString_nat] at read

/-- A whole number is written without zeros in front. -/
theorem isPaddedDigits_toString (value : Nat) :
    Yaml.isPaddedDigits (toString value).toList = false := by
  rw [toList_toString_nat]
  rcases Nat.eq_zero_or_pos value with rfl | positive
  · rfl
  · have noZero := Number.head?_toDigits positive
    obtain ⟨first, rest, characters⟩ :=
      List.exists_cons_of_ne_nil (Nat.toDigits_ne_nil (b := 10) (n := value))
    have digit : first.isDigit = true :=
      isDigit_of_mem_toDigits (by rw [characters]; exact List.mem_cons_self)
    have noSign : first ≠ '-' ∧ first ≠ '+' := by
      constructor
      all_goals
        rintro rfl
        cases digit
    have unsigned : (Number.splitSign (first :: rest)).2 = first :: rest := by
      rw [Number.splitSign.eq_def]
      split <;> simp_all
    rw [characters] at noZero ⊢
    rw [Yaml.isPaddedDigits, unsigned]
    split <;> simp_all

/-- A whole number reads back from its digits. -/
theorem unsigned?_toString (value : Nat) : Yaml.unsigned? (toString value).toList = some value := by
  have read := natural?_toString value
  have notPadded := isPaddedDigits_toString value
  have digits : ∀ character ∈ (toString value).toList, character.isDigit = true := by
    rw [toList_toString_nat]
    exact fun _ => isDigit_of_mem_toDigits
  generalize (toString value).toList = text at read notPadded digits ⊢
  have magnitude : Yaml.wholeMagnitude? text = some value := by
    rw [Yaml.wholeMagnitude?.eq_def]
    split
    case h_4 => rw [notPadded, if_neg Bool.false_ne_true, read]
    all_goals exact absurd (digits _ (List.mem_cons_of_mem _ List.mem_cons_self)) (by decide)
  rw [Yaml.unsigned?.eq_def]
  split
  · exact absurd (digits _ List.mem_cons_self) (by decide)
  · exact magnitude

/-- A whole number of 64 bits reads back from its text. -/
theorem unsigned64?_toString (value : UInt64) :
    unsigned64? (toString value.toNat) = some value := by
  rw [unsigned64?, unsigned?_toString]
  simp [value.toNat_lt]

end Document

end DroneSession
