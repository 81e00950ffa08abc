import DroneSession.Proofs.Number.Digits
import DroneSession.Proofs.Yaml.PlainScalar

namespace DroneSession

/-!
# Quoted text reads back

Between double quotes every character is written so that it reads back, whatever stands behind it.
Between single quotes a run of line breaks is indented, and the indentation is folded away again.
-/

-- Powers are the built-in ones, also where other instances are in scope.
attribute [local instance (high)] instPowNat

namespace Yaml

open Number (digitValue? natural?_toDigits)

/-- What is read behind a text that was read already. -/
def prefixed
    (front : List Char)
    (read : Option (List Char × Input)) :
    Option (List Char × Input) :=
  read.map fun (text, rest) => (front ++ text, rest)

@[simp] theorem prefixed_some
    (front text : List Char)
    (rest : Input) :
    prefixed front (some (text, rest)) = some (front ++ text, rest) :=
  rfl

/-- What is put in front of a reading twice is put there as one text. -/
theorem prefixed_prefixed
    (front next : List Char)
    (read : Option (List Char × Input)) :
    prefixed front (prefixed next read) = prefixed (front ++ next) read := by
  cases read with
  | none => rfl
  | some read => simp [prefixed]

/-- Text up to a delimiter, divided behind its leading run of a class. -/
theorem exists_run
    {belongs : Char → Bool}
    {delimiter : Char}
    (delimits : belongs delimiter = false)
    (body later : List Char) :
    ∃ run rest,
      body ++ delimiter :: later = run ++ rest ∧
      run <+: body ∧
      (∀ character ∈ run, belongs character = true) ∧
      Position.StartsOutside belongs rest := by
  refine ⟨body.takeWhile belongs, body.dropWhile belongs ++ delimiter :: later, ?_,
    List.takeWhile_prefix belongs, ?_, ?_⟩
  · rw [← List.append_assoc, List.takeWhile_append_dropWhile]
  · intro character member
    exact List.all_eq_true.mp List.all_takeWhile character member
  · intro character first
    cases ended : body.dropWhile belongs with
    | nil =>
        rw [ended] at first
        cases first
        exact delimits
    | cons next rest =>
        have outside := Position.startsOutside_dropWhile belongs body
        rw [ended] at first outside
        exact outside character first

/-! ## Double quotes -/

section

variable {position : Position} (behindStart : position.column ≠ 0) (later : List Char)

include behindStart

/-- A character that means nothing special is read as itself between double quotes. -/
theorem doubleQuoted?_solid
    {character : Char}
    (solid : isSpace character = false)
    (noQuote : character ≠ '"')
    (noEscape : character ≠ '\\') :
    doubleQuoted? (position.place (character :: later)) =
      prefixed [character] (doubleQuoted? ((position.after character).place later)) := by
  rw [doubleQuoted?.eq_def (position.place _), atBoundary_of_column behindStart]
  simp [Position.locate, solid, noQuote, noEscape, prefixed]

/-- A run of separators without a line break. -/
theorem doubleQuoted?_separators
    {first : Char}
    {run : List Char}
    (space : ∀ character ∈ first :: run, isSpace character = true)
    (outside : Position.StartsOutside isSpace later) :
    doubleQuoted? (position.place (first :: run ++ later)) =
      prefixed (fold (first :: run))
        (doubleQuoted? ((position.behind (first :: run)).place later)) := by
  have read :=
    Position.span_place (fun other member => space other (List.mem_cons_of_mem _ member)) outside
      (position.after first)
  rw [doubleQuoted?.eq_def (position.place _), atBoundary_of_column behindStart]
  simp only [Bool.false_eq_true, if_false, List.cons_append, Position.place_cons, Position.locate,
    space first List.mem_cons_self, if_true, read]
  rfl

/-- A letter behind the mark of an escape is read as its character. -/
theorem doubleQuoted?_letter
    {letter character : Char}
    (unbroken : isBreak letter = false)
    (escapes : letterEscape? letter = some character) :
    doubleQuoted? (position.place ('\\' :: letter :: later)) =
      prefixed [character] (doubleQuoted? ((position.behind ['\\', letter]).place later)) := by
  rw [doubleQuoted?.eq_def (position.place _), atBoundary_of_column behindStart]
  simp only [Position.place_cons, Position.locate, unbroken, escapes]
  rfl

/-- Digits behind the mark of an escape and its letter are read as their character. -/
theorem doubleQuoted?_code
    {letter character : Char}
    {digits : List Char}
    (unbroken : isBreak letter = false)
    (noLetter : letterEscape? letter = none)
    (width : codeWidth letter = digits.length)
    (escapes : codeEscape? (codeWidth letter) digits = some character) :
    doubleQuoted? (position.place ('\\' :: letter :: (digits ++ later))) =
      prefixed [character]
        (doubleQuoted? ((position.behind ('\\' :: letter :: digits)).place later)) := by
  rw [doubleQuoted?.eq_def (position.place _), atBoundary_of_column behindStart]
  have taken :
      (List.take (codeWidth letter)
          (((position.after '\\').after letter).place (digits ++ later))).map
            Located.character = digits := by
    rw [List.map_take, Position.map_character_place, width, List.take_left]
  have dropped :
      List.drop (codeWidth letter) (((position.after '\\').after letter).place (digits ++ later)) =
        (position.behind ('\\' :: letter :: digits)).place later := by
    rw [Position.place_append, List.drop_left' (by rw [Position.length_place, width])]
    rfl
  simp only [Position.place_cons, Position.locate, unbroken, noLetter, taken, dropped, escapes]
  rfl

/-- Spaces stand for themselves, as long as no line break follows them. -/
theorem doubleQuoted?_space
    {body : List Char}
    (unbroken : ∀ character ∈ body, isBreak character = false) :
    doubleQuoted? (position.place (' ' :: (body ++ '"' :: later))) =
      prefixed [' '] (doubleQuoted? ((position.after ' ').place (body ++ '"' :: later))) := by
  have behindSpace : (position.after ' ').column ≠ 0 := by
    rw [Position.column_after rfl]
    exact Nat.succ_ne_zero _
  have delimits : isSpace '"' = false :=
    rfl
  obtain ⟨run, rest, same, front, space, outside⟩ := exists_run delimits body later
  have plainRun : ∀ character ∈ run, isBreak character = false := fun character member =>
    unbroken character (front.mem member)
  have folded : ∀ front, (∀ character ∈ front, isBreak character = false) → fold front = front :=
    fun front unbroken => fold_eq_self (List.any_eq_false.mpr fun _ member =>
      Bool.eq_false_iff.mp (unbroken _ member))
  rw [same]
  have blankRun : ∀ character ∈ ' ' :: run, isSpace character = true := by
    intro character member
    rcases List.mem_cons.mp member with rfl | inRun
    · rfl
    · exact space character inRun
  have plainSpaces : ∀ character ∈ ' ' :: run, isBreak character = false := by
    intro character member
    rcases List.mem_cons.mp member with rfl | inRun
    · rfl
    · exact plainRun character inRun
  rw [← List.cons_append, doubleQuoted?_separators behindStart rest blankRun outside,
    folded _ plainSpaces]
  cases run with
  | nil => rfl
  | cons second run =>
      rw [doubleQuoted?_separators behindSpace rest space outside, folded _ plainRun,
        prefixed_prefixed]
      rfl

end

/-- Digits can be printed and break no line. -/
theorem isPrintable_of_digitValue?
    {character : Char}
    (valued : (digitValue? character).isSome = true) :
    isPrintable character = true ∧ isBreak character = false := by
  constructor
  · have bounds : 48 ≤ character.toNat ∧ character.toNat ≤ 102 := by
      have between :
          ∀ first last : Char,
            first ≤ character ∧ character ≤ last ↔
              first.toNat ≤ character.toNat ∧ character.toNat ≤ last.toNat :=
        fun _ _ => Iff.rfl
      simp only [digitValue?, between, Char.reduceToNat] at valued
      split at valued
      · omega
      · split at valued
        · omega
        · split at valued
          · omega
          · cases valued
    simp only [isPrintable, Bool.or_eq_true, Bool.and_eq_true, decide_eq_true_eq]
    omega
  · rw [Bool.eq_false_iff]
    intro breaks
    simp only [isBreak, Bool.or_eq_true, beq_iff_eq] at breaks
    rcases breaks with (((rfl | rfl) | rfl) | rfl) | rfl <;> cases valued

/-- The hexadecimal digits of an escape have its width and its code. -/
theorem codeEscape?_hexadecimal
    {width : Nat}
    (positive : 0 < width)
    {character : Char}
    (fits : character.toNat < 16 ^ width) :
    (Text.hexadecimal width character.toNat).toUpper.toList.length = width ∧
    codeEscape? width (Text.hexadecimal width character.toNat).toUpper.toList = some character := by
  have fewer : (Nat.toDigits 16 character.toNat).length ≤ width :=
    (Nat.length_toDigits_le_iff (by decide) positive).mpr fits
  have spells : ∀ digit < 16, digitValue? digit.digitChar.toUpper = some digit := by
    decide
  have read :=
    natural?_toDigits (by decide) spells (width - (Nat.toDigits 16 character.toNat).length)
      character.toNat
  have same :
      (Text.hexadecimal width character.toNat).toUpper.toList =
        (List.replicate (width - (Nat.toDigits 16 character.toNat).length) '0' ++
          Nat.toDigits 16 character.toNat).map Char.toUpper := by
    rw [String.toUpper, String.toList_map, Text.hexadecimal, String.toList_ofList]
  have length :
      (Text.hexadecimal width character.toNat).toUpper.toList.length = width := by
    rw [same, List.length_map, List.length_append, List.length_replicate]
    omega
  refine ⟨length, ?_⟩
  rw [codeEscape?, length, same, read]
  have valid : character.toNat.isValidChar := character.valid
  simp [Nat.ne_of_gt positive, valid]

/-- The ways to write a character between double quotes. -/
inductive Escaped (character : Char) : List Char → Prop where
  | solid
      (printable : isPrintable character = true)
      (unbroken : isBreak character = false)
      (noQuote : character ≠ '"')
      (noEscape : character ≠ '\\') :
      Escaped character [character]
  | letter
      {letter : Char}
      (printable : isPrintable letter = true)
      (unbroken : isBreak letter = false)
      (escapes : letterEscape? letter = some character) :
      Escaped character ['\\', letter]
  | code
      {letter : Char}
      {digits : List Char}
      (printable : isPrintable letter = true)
      (unbroken : isBreak letter = false)
      (noLetter : letterEscape? letter = none)
      (width : codeWidth letter = digits.length)
      (escapes : codeEscape? (codeWidth letter) digits = some character) :
      Escaped character ('\\' :: letter :: digits)

/-- A character is escaped by its number with as many digits as its letter announces. -/
theorem Escaped.hexadecimal
    {letter character : Char}
    (printable : isPrintable letter = true)
    (unbroken : isBreak letter = false)
    (noLetter : letterEscape? letter = none)
    (positive : 0 < codeWidth letter)
    (fits : character.toNat < 16 ^ codeWidth letter) :
    Escaped character
      (String.ofList ['\\', letter]
        ++ (Text.hexadecimal (codeWidth letter) character.toNat).toUpper).toList := by
  obtain ⟨length, escapes⟩ := codeEscape?_hexadecimal positive fits
  rw [String.toList_append, String.toList_ofList]
  exact .code printable unbroken noLetter length.symm escapes

/-- The characters that are escaped with one letter, and their letters. -/
def letterEscapes : List (Char × Char) :=
  [ ('\x00', '0'), ('\x07', 'a'), ('\x08', 'b'), ('\t', 't'), ('\n', 'n'), ('\x0b', 'v'),
    ('\x0c', 'f'), ('\r', 'r'), ('\x1b', 'e'), ('"', '"'), ('\\', '\\'), ('\x85', 'N'),
    ('\u2028', 'L'), ('\u2029', 'P') ]

/-- Every letter of an escape is written behind the mark and reads back as its character. -/
theorem escaped_of_mem_letterEscapes :
    ∀ entry ∈ letterEscapes,
      (escaped entry.1).toList = ['\\', entry.2] ∧
      isPrintable entry.2 = true ∧
      isBreak entry.2 = false ∧
      letterEscape? entry.2 = some entry.1 := by
  decide

/-- Every character is written in one of the ways that read back. -/
theorem escaped_escaped (character : Char) : Escaped character (escaped character).toList := by
  by_cases short : character ∈ letterEscapes.map Prod.fst
  · obtain ⟨⟨_, letter⟩, member, rfl⟩ := List.mem_map.mp short
    obtain ⟨written, printable, unbroken, escapes⟩ := escaped_of_mem_letterEscapes _ member
    rw [written]
    exact .letter printable unbroken escapes
  · have noQuote : character ≠ '"' := by
      rintro rfl
      exact short (by decide)
    have noEscape : character ≠ '\\' := by
      rintro rfl
      exact short (by decide)
    simp only [letterEscapes, List.map_cons, List.map_nil, List.mem_cons, List.not_mem_nil,
      or_false, not_or] at short
    have long :
        escaped character =
          if isPrintable character then String.singleton character
          else if character.toNat ≤ 0xff then
            "\\x" ++ (Text.hexadecimal 2 character.toNat).toUpper
          else if character.toNat ≤ 0xffff then
            "\\u" ++ (Text.hexadecimal 4 character.toNat).toUpper
          else "\\U" ++ (Text.hexadecimal 8 character.toNat).toUpper := by
      simp only [escaped, short, if_false]
    rw [long]
    split
    case isTrue printable =>
      rw [String.toList_singleton]
      have unbroken : isBreak character = false := by
        simp only [isBreak, short, Bool.or_eq_false_iff, beq_eq_false_iff_ne, ne_eq,
          not_false_eq_true, and_self]
      exact .solid printable unbroken noQuote noEscape
    case isFalse =>
      have greatest : character.toNat < 16 ^ 8 :=
        character.val.toNat_lt
      split
      · exact Escaped.hexadecimal rfl rfl rfl (by decide) (by change _ < 256; omega)
      · split
        · exact Escaped.hexadecimal rfl rfl rfl (by decide) (by change _ < 65536; omega)
        · exact Escaped.hexadecimal rfl rfl rfl (by decide) greatest

/-- Whatever is written for a character can be printed and breaks no line. -/
theorem Escaped.printable
    {character : Char}
    {written : List Char}
    (isEscaped : Escaped character written) :
    ∀ other ∈ written, isPrintable other = true ∧ isBreak other = false := by
  cases isEscaped with
  | solid printable unbroken =>
      intro other member
      rw [List.mem_singleton.mp member]
      exact ⟨printable, unbroken⟩
  | @letter letter printable unbroken escapes =>
      intro other member
      rcases List.mem_cons.mp member with rfl | member
      · exact ⟨rfl, rfl⟩
      · rw [List.mem_singleton.mp member]
        exact ⟨printable, unbroken⟩
  | @code letter digits printable unbroken noLetter width escapes =>
      intro other member
      rcases List.mem_cons.mp member with rfl | member
      · exact ⟨rfl, rfl⟩
      · rcases List.mem_cons.mp member with rfl | member
        · exact ⟨printable, unbroken⟩
        · rw [codeEscape?] at escapes
          split at escapes
          · cases escapes
          · split at escapes
            · cases escapes
            · next read =>
                exact isPrintable_of_digitValue?
                  (Number.isSome_digitValue?_of_natural? read other member)

/-- The text between double quotes. -/
def escapedText (text : List Char) : List Char :=
  text.flatMap fun character => (escaped character).toList

/-- The text between double quotes can be printed and stands in one line. -/
theorem printable_escapedText
    (text : List Char) :
    ∀ character ∈ escapedText text,
      isPrintable character = true ∧ isBreak character = false := by
  intro character member
  obtain ⟨origin, _, written⟩ := List.mem_flatMap.mp member
  exact (escaped_escaped origin).printable character written

/-- What is written for a character is read as the character, in front of whatever follows. -/
theorem Escaped.doubleQuoted?_eq
    {character : Char}
    {written : List Char}
    (isEscaped : Escaped character written)
    {position : Position}
    (behindStart : position.column ≠ 0)
    (text stop : List Char) :
    doubleQuoted? (position.place (written ++ (escapedText text ++ '"' :: stop))) =
      prefixed [character]
        (doubleQuoted? ((position.behind written).place (escapedText text ++ '"' :: stop))) := by
  cases isEscaped with
  | solid printable unbroken noQuote noEscape =>
      cases blank : isBlank character with
      | true =>
          obtain rfl := eq_space_of_isBlank printable blank
          exact doubleQuoted?_space behindStart stop
            fun other member => (printable_escapedText text other member).2
      | false =>
          have solid : isSpace character = false := by
            rw [isSpace, blank, unbroken, Bool.or_self]
          exact doubleQuoted?_solid behindStart _ solid noQuote noEscape
  | letter _ unbroken escapes =>
      exact doubleQuoted?_letter behindStart _ unbroken escapes
  | code _ unbroken noLetter width escapes =>
      exact doubleQuoted?_code behindStart _ unbroken noLetter width escapes

/-- The text between double quotes reads back, whatever text it is. -/
theorem doubleQuoted?_escapedText
    {position : Position}
    (behindStart : position.column ≠ 0)
    (text stop : List Char) :
    doubleQuoted? (position.place (escapedText text ++ '"' :: stop)) =
      some (text, (position.behind (escapedText text ++ ['"'])).place stop) := by
  induction text generalizing position with
  | nil =>
      rw [doubleQuoted?.eq_def, atBoundary_of_column behindStart]
      rfl
  | cons character text inductionHypothesis =>
      have divided :
          escapedText (character :: text) = (escaped character).toList ++ escapedText text :=
        List.flatMap_cons
      have isEscaped := escaped_escaped character
      have behindCharacter : (position.behind (escaped character).toList).column ≠ 0 := by
        rw [Position.column_behind fun other member => (isEscaped.printable other member).2]
        omega
      rw [divided, List.append_assoc, isEscaped.doubleQuoted?_eq behindStart text stop,
        inductionHypothesis behindCharacter, prefixed_some]
      simp only [List.singleton_append, List.append_assoc, Position.behind_append]

/-! ## Single quotes -/

section

variable {position : Position} (behindStart : position.column ≠ 0) (later : List Char)

include behindStart

/-- A character that means nothing special is read as itself between single quotes. -/
theorem singleQuoted?_solid
    {character : Char}
    (solid : isSpace character = false)
    (noQuote : character ≠ '\'') :
    singleQuoted? (position.place (character :: later)) =
      prefixed [character] (singleQuoted? ((position.after character).place later)) := by
  rw [singleQuoted?.eq_def (position.place _), atBoundary_of_column behindStart]
  simp [Position.locate, solid, noQuote, prefixed]

/-- A quote that is written twice is read as one. -/
theorem singleQuoted?_quote :
    singleQuoted? (position.place ('\'' :: '\'' :: later)) =
      prefixed ['\''] (singleQuoted? ((position.behind ['\'', '\'']).place later)) := by
  have solid : isSpace '\'' = false :=
    rfl
  rw [singleQuoted?.eq_def (position.place _), atBoundary_of_column behindStart]
  simp [Position.locate, solid, prefixed]

/-- A run of separators is folded and read in front of what follows. -/
theorem singleQuoted?_separators
    {run : List Char}
    (nonempty : run ≠ [])
    (space : ∀ character ∈ run, isSpace character = true)
    (outside : Position.StartsOutside isSpace later) :
    singleQuoted? (position.place (run ++ later)) =
      prefixed (fold run) (singleQuoted? ((position.behind run).place later)) := by
  cases run with
  | nil => exact absurd rfl nonempty
  | cons first run =>
      have read :=
        Position.span_place (fun other member => space other (List.mem_cons_of_mem _ member))
          outside (position.after first)
      rw [singleQuoted?.eq_def (position.place _), atBoundary_of_column behindStart]
      simp only [Bool.false_eq_true, if_false, List.cons_append, Position.place_cons,
        Position.locate, space first List.mem_cons_self, if_true, read]
      rfl

end

/-- Text in which line breaks and spaces do not meet, divided into runs. -/
inductive Quotable : List Char → Prop where
  | nil : Quotable []
  | solid
      {character : Char}
      {rest : List Char}
      (solid : isSpace character = false)
      (quotable : Quotable rest) :
      Quotable (character :: rest)
  | gap
      (count : Nat)
      {rest : List Char}
      (outside : Position.StartsOutside isSpace rest)
      (quotable : Quotable rest) :
      Quotable (spaces (count + 1) ++ rest)
  | breaks
      {run rest : List Char}
      (nonempty : run ≠ [])
      (breaks : ∀ character ∈ run, isBreak character = true ∧ character ≠ '\n')
      (outside : Position.StartsOutside isSpace rest)
      (quotable : Quotable rest) :
      Quotable (run ++ rest)

theorem hasPair_of_cons
    {first second : Char → Bool}
    {character : Char}
    {rest : List Char}
    (noPair : Writable.hasPair first second (character :: rest) = false) :
    Writable.hasPair first second rest = false := by
  cases rest with
  | nil => rfl
  | cons next rest =>
      rw [Writable.hasPair, Bool.or_eq_false_iff] at noPair
      exact noPair.2

/-- Text without spaces next to its breaks divides into runs that fold back. -/
theorem Quotable.of_pairs
    {text : List Char}
    (printable : ∀ character ∈ text, isPrintable character = true ∧ character ≠ '\n')
    (noSpaceBefore : Writable.hasPair (· == ' ') isBreak text = false)
    (noBreakBefore : Writable.hasPair isBreak (· == ' ') text = false) :
    Quotable text := by
  induction text with
  | nil => exact .nil
  | cons character rest inductionHypothesis =>
      have quotable :=
        inductionHypothesis (fun other member => printable other (List.mem_cons_of_mem _ member))
          (hasPair_of_cons noSpaceBefore) (hasPair_of_cons noBreakBefore)
      have nothing : Position.StartsOutside isSpace [] := fun _ impossible => nomatch impossible
      have alone : ∀ {first : Char} {others : List Char},
          isSpace first = false → Position.StartsOutside isSpace (first :: others) := by
        rintro first others solid _ ⟨⟩
        exact solid
      cases breaks : isBreak character with
      | true =>
          have single : ∀ other ∈ [character], isBreak other = true ∧ other ≠ '\n' := by
            intro other member
            rw [List.mem_singleton.mp member]
            exact ⟨breaks, (printable character List.mem_cons_self).2⟩
          cases quotable with
          | nil => exact .breaks (List.cons_ne_nil _ _) single nothing .nil
          | solid solid quotable =>
              exact .breaks (List.cons_ne_nil _ _) single (alone solid) (.solid solid quotable)
          | gap count outside quotable =>
              simp [Writable.hasPair, spaces, List.replicate_succ, breaks] at noBreakBefore
          | breaks nonempty breaksRun outside quotable =>
              rw [← List.cons_append]
              refine .breaks (List.cons_ne_nil _ _) ?_ outside quotable
              intro other member
              rcases List.mem_cons.mp member with rfl | inRun
              · exact single _ List.mem_cons_self
              · exact breaksRun other inRun
      | false =>
          cases blank : isBlank character with
          | false =>
              have solid : isSpace character = false := by
                rw [isSpace, blank, breaks, Bool.or_self]
              exact .solid solid quotable
          | true =>
              obtain rfl := eq_space_of_isBlank (printable character List.mem_cons_self).1 blank
              cases quotable with
              | nil => exact .gap 0 nothing .nil
              | solid solid quotable => exact .gap 0 (alone solid) (.solid solid quotable)
              | gap count outside quotable => exact .gap (count + 1) outside quotable
              | @breaks run rest nonempty breaksRun outside quotable =>
                  obtain ⟨first, run, rfl⟩ := List.exists_cons_of_ne_nil nonempty
                  have breaksFirst := (breaksRun first List.mem_cons_self).1
                  simp [Writable.hasPair, breaksFirst] at noSpaceBefore

/-- A text in which every quote is written twice. -/
def doubled (text : List Char) : List Char :=
  text.flatMap fun character => if character = '\'' then ['\'', '\''] else [character]

/-- What stands between single quotes. -/
def singleQuotedBody
    (indentation : Nat)
    (text : List Char) :
    List Char :=
  indentLines indentation true (doubled text)
    ++ if text.getLast?.any isBreak then spaces indentation else []

/-- Text in single quotes is its body between two quotes. -/
theorem writeSingleQuoted_eq
    (indentation : Nat)
    (text : List Char) :
    writeSingleQuoted indentation text =
      '\'' :: (singleQuotedBody indentation text ++ ['\'']) :=
  rfl

/-- Indentation adds nothing but spaces to a text. -/
theorem mem_indentLines
    {indentation : Nat}
    {begun : Bool}
    {text : List Char}
    {character : Char}
    (member : character ∈ indentLines indentation begun text) :
    character ∈ text ∨ character = ' ' := by
  induction text generalizing begun with
  | nil => cases member
  | cons first rest inductionHypothesis =>
      have ofRest :
          ∀ {begun : Bool},
            character ∈ first :: indentLines indentation begun rest →
            character ∈ first :: rest ∨ character = ' ' := by
        intro begun member
        rcases List.mem_cons.mp member with rfl | later
        · exact .inl List.mem_cons_self
        · exact (inductionHypothesis later).imp_left (List.mem_cons_of_mem _)
      rw [indentLines] at member
      split at member
      · exact ofRest member
      · split at member
        · exact ofRest member
        · rcases List.mem_append.mp member with margin | line
          · exact .inr (List.eq_of_mem_replicate margin)
          · exact ofRest line

/-- What is written in single quotes can be printed if the text can. -/
theorem printable_writeSingleQuoted
    {text : List Char}
    (printable : ∀ character ∈ text, isPrintable character = true)
    (indentation : Nat) :
    ∀ character ∈ writeSingleQuoted indentation text, isPrintable character = true := by
  intro character member
  rw [writeSingleQuoted_eq, singleQuotedBody] at member
  rcases List.mem_cons.mp member with rfl | member
  · rfl
  rcases List.mem_append.mp member with body | quote
  · rcases List.mem_append.mp body with lines | closing
    · rcases mem_indentLines lines with inText | rfl
      · obtain ⟨origin, inText, written⟩ := List.mem_flatMap.mp inText
        split at written
        · rw [List.eq_of_mem_replicate (show character ∈ List.replicate 2 '\'' from written)]
          rfl
        · rw [List.mem_singleton.mp written]
          exact printable origin inText
      · rfl
    · split at closing
      · rw [List.eq_of_mem_replicate closing]
        rfl
      · cases closing
  · rw [List.mem_singleton.mp quote]
    rfl

theorem doubled_cons
    {character : Char}
    (noQuote : character ≠ '\'')
    (rest : List Char) :
    doubled (character :: rest) = character :: doubled rest := by
  rw [doubled, List.flatMap_cons, if_neg noQuote]
  rfl

/-- Line breaks are not doubled. -/
theorem doubled_breaks
    {run : List Char}
    (breaks : ∀ character ∈ run, isBreak character = true)
    (rest : List Char) :
    doubled (run ++ rest) = run ++ doubled rest := by
  induction run with
  | nil => rfl
  | cons first run inductionHypothesis =>
      have noQuote : first ≠ '\'' := by
        rintro rfl
        exact absurd (breaks _ List.mem_cons_self) (by decide)
      rw [List.cons_append, doubled_cons noQuote,
        inductionHypothesis fun other member => breaks other (List.mem_cons_of_mem _ member)]
      rfl

/-- No margin is written in front of a line break. -/
theorem indentLines_breaks
    {run : List Char}
    (breaks : ∀ character ∈ run, isBreak character = true)
    (indentation : Nat)
    (rest : List Char) :
    indentLines indentation false (run ++ rest) =
      run ++ indentLines indentation false rest := by
  induction run with
  | nil => rfl
  | cons first run inductionHypothesis =>
      rw [List.cons_append, indentLines, if_pos (breaks first List.mem_cons_self),
        inductionHypothesis fun other member => breaks other (List.mem_cons_of_mem _ member)]
      rfl

section

variable (indentation : Nat) {character : Char} (unbroken : isBreak character = false)
variable (rest : List Char)

include unbroken

theorem indentLines_begun :
    indentLines indentation true (character :: rest) =
      character :: indentLines indentation true rest := by
  rw [indentLines]
  simp [unbroken]

/-- The first character of a line is indented. -/
theorem indentLines_line :
    indentLines indentation false (character :: rest) =
      spaces indentation ++ indentLines indentation true (character :: rest) := by
  rw [indentLines_begun indentation unbroken, indentLines]
  simp [unbroken]

/--
A quote is written twice between single quotes, and every other character in front of a word as it
is.
-/
theorem singleQuotedBody_cons :
    singleQuotedBody indentation (character :: rest) =
      (if character = '\'' then ['\'', '\''] else [character])
        ++ singleQuotedBody indentation rest := by
  have closing :
      (character :: rest).getLast?.any isBreak = rest.getLast?.any isBreak := by
    cases rest with
    | nil => simp [unbroken]
    | cons next others => rw [List.getLast?_cons_cons]
  rw [singleQuotedBody, closing]
  by_cases quote : character = '\''
  · subst quote
    have divided : doubled ('\'' :: rest) = '\'' :: '\'' :: doubled rest := rfl
    rw [divided, indentLines_begun indentation unbroken, indentLines_begun indentation unbroken]
    rfl
  · rw [doubled_cons quote, indentLines_begun indentation unbroken, if_neg quote]
    rfl

end

theorem singleQuotedBody_gap
    (indentation count : Nat)
    (rest : List Char) :
    singleQuotedBody indentation (spaces count ++ rest) =
      spaces count ++ singleQuotedBody indentation rest := by
  induction count with
  | zero => rfl
  | succ count inductionHypothesis =>
      have unbroken : isBreak ' ' = false :=
        rfl
      have divided : spaces (count + 1) = ' ' :: spaces count :=
        rfl
      rw [divided, List.cons_append, singleQuotedBody_cons indentation unbroken,
        inductionHypothesis]
      rfl

/-- Behind a run of line breaks the text goes on at the indentation. -/
theorem singleQuotedBody_breaks
    (indentation : Nat)
    {run rest : List Char}
    (nonempty : run ≠ [])
    (breaks : ∀ character ∈ run, isBreak character = true)
    (outside : Position.StartsOutside isSpace rest) :
    singleQuotedBody indentation (run ++ rest) =
      (run ++ spaces indentation) ++ singleQuotedBody indentation rest := by
  have behindRun :
      indentLines indentation true (doubled (run ++ rest)) =
        run ++ indentLines indentation false (doubled rest) := by
    obtain ⟨first, run, rfl⟩ := List.exists_cons_of_ne_nil nonempty
    rw [doubled_breaks breaks, List.cons_append, indentLines,
      if_pos (breaks first List.mem_cons_self),
      indentLines_breaks fun other member => breaks other (List.mem_cons_of_mem _ member)]
    rfl
  rw [singleQuotedBody, behindRun]
  cases rest with
  | nil =>
      have closing : (run ++ []).getLast?.any isBreak = true := by
        rw [List.append_nil, List.getLast?_eq_some_getLast nonempty]
        exact breaks _ (List.getLast_mem nonempty)
      rw [closing]
      simp [doubled, indentLines, singleQuotedBody]
  | cons character rest =>
      have unbroken : isBreak character = false :=
        not_isBreak_of_not_isSpace (outside character rfl)
      have closing :
          (run ++ character :: rest).getLast? = (character :: rest).getLast? := by
        rw [List.getLast?_append, Option.or_of_isSome (by simp)]
      obtain ⟨others, divided⟩ : ∃ others, doubled (character :: rest) = character :: others := by
        by_cases quote : character = '\''
        · exact ⟨_, by subst quote; rfl⟩
        · exact ⟨_, doubled_cons quote rest⟩
      rw [closing, singleQuotedBody, divided, indentLines_line indentation unbroken]
      simp only [List.append_assoc]

/-- Between quotes nothing but text that starts with a separator does so. -/
theorem startsOutside_singleQuotedBody
    {rest : List Char}
    (outside : Position.StartsOutside isSpace rest)
    (indentation : Nat)
    (stop : List Char) :
    Position.StartsOutside isSpace (singleQuotedBody indentation rest ++ '\'' :: stop) := by
  cases rest with
  | nil =>
      rintro character ⟨⟩
      rfl
  | cons first rest =>
      have solid : isSpace first = false :=
        outside first rfl
      rw [singleQuotedBody_cons indentation (not_isBreak_of_not_isSpace solid)]
      split
      · rintro character ⟨⟩
        rfl
      · rintro character ⟨⟩
        exact solid

/-- A run of line breaks that are no line feeds is folded to itself. -/
theorem fold_breaks
    {run : List Char}
    (nonempty : run ≠ [])
    (breaks : ∀ character ∈ run, isBreak character = true ∧ character ≠ '\n')
    (count : Nat) :
    fold (run ++ spaces count) = run := by
  have kept : (run ++ spaces count).filter isBreak = run := by
    have nothing : (spaces count).filter isBreak = [] :=
      List.filter_eq_nil_iff.mpr fun character member =>
        Bool.eq_false_iff.mp (Position.isBreak_of_mem_spaces member)
    rw [List.filter_append, nothing, List.append_nil,
      List.filter_eq_self.mpr fun character member => (breaks character member).1]
  obtain ⟨first, run, rfl⟩ := List.exists_cons_of_ne_nil nonempty
  have noFeed := (breaks first List.mem_cons_self).2
  rw [fold, kept]
  split
  · next empty => cases empty
  · next single => exact absurd (List.cons.inj single).1 noFeed
  · next several => exact absurd (List.cons.inj several).1 noFeed
  · rfl

/-- The text between single quotes reads back if it may be written there. -/
theorem singleQuoted?_body
    {indentation : Nat}
    (indented : 0 < indentation)
    {text : List Char}
    (quotable : Quotable text)
    {position : Position}
    (behindStart : position.column ≠ 0)
    {stop : List Char}
    (stops : stop.head? ≠ some '\'') :
    singleQuoted? (position.place (singleQuotedBody indentation text ++ '\'' :: stop)) =
      some
        (text, (position.behind (singleQuotedBody indentation text ++ ['\''])).place stop) := by
  induction quotable generalizing position with
  | nil =>
      have solid : isSpace '\'' = false :=
        rfl
      have empty : singleQuotedBody indentation [] = [] :=
        rfl
      rw [empty, singleQuoted?.eq_def, List.nil_append, atBoundary_of_column behindStart]
      cases stop with
      | nil => simp [Position.locate, solid]
      | cons next stop =>
          have noQuote : next ≠ '\'' := by
            simpa using stops
          simp [Position.locate, solid, noQuote]
  | @solid character rest solid quotable inductionHypothesis =>
      have unbroken := not_isBreak_of_not_isSpace solid
      rw [singleQuotedBody_cons indentation unbroken, List.append_assoc]
      by_cases quote : character = '\''
      · subst quote
        have behindQuotes : (position.behind ['\'', '\'']).column ≠ 0 := by
          rw [Position.column_behind (forall_mem_of_all (by decide))]
          exact Nat.succ_ne_zero _
        rw [if_pos rfl, List.cons_append, List.singleton_append,
          singleQuoted?_quote behindStart, inductionHypothesis behindQuotes, prefixed_some]
        simp only [List.cons_append, List.nil_append, Position.behind_cons, Position.behind_nil]
      · have behindCharacter : (position.after character).column ≠ 0 := by
          rw [Position.column_after unbroken]
          exact Nat.succ_ne_zero _
        rw [if_neg quote, List.singleton_append, singleQuoted?_solid behindStart _ solid quote,
          inductionHypothesis behindCharacter, prefixed_some]
        simp only [List.cons_append, List.nil_append, Position.behind_cons]
  | @gap count rest outside quotable inductionHypothesis =>
      have blank : ∀ character ∈ spaces (count + 1), isSpace character = true := by
        intro character member
        rw [List.eq_of_mem_replicate member]
        rfl
      have behindGap : (position.behind (spaces (count + 1))).column ≠ 0 := by
        rw [Position.column_behind_spaces]
        exact Nat.succ_ne_zero _
      have nonempty : spaces (count + 1) ≠ [] :=
        List.cons_ne_nil _ _
      rw [singleQuotedBody_gap, List.append_assoc,
        singleQuoted?_separators behindStart _ nonempty blank
          (startsOutside_singleQuotedBody outside indentation stop),
        fold_eq_self (any_isBreak_spaces _), inductionHypothesis behindGap, prefixed_some]
      simp only [List.append_assoc, Position.behind_append]
  | @breaks run rest nonempty breaks outside quotable inductionHypothesis =>
      have separate : ∀ character ∈ run ++ spaces indentation, isSpace character = true := by
        intro character member
        rcases List.mem_append.mp member with inRun | blank
        · rw [isSpace, (breaks character inRun).1, Bool.or_true]
        · rw [List.eq_of_mem_replicate blank]
          rfl
      have behindRun : (position.behind (run ++ spaces indentation)).column ≠ 0 := by
        rw [Position.behind_append, Position.column_behind_spaces]
        omega
      rw [singleQuotedBody_breaks indentation nonempty
          (fun character member => (breaks character member).1) outside,
        List.append_assoc,
        singleQuoted?_separators behindStart _ (List.append_ne_nil_of_left_ne_nil nonempty _)
          separate (startsOutside_singleQuotedBody outside indentation stop),
        fold_breaks nonempty breaks, inductionHypothesis behindRun, prefixed_some]
      simp only [List.append_assoc, Position.behind_append]

end Yaml

end DroneSession
