import DroneSession.Proofs.Yaml.Scanning
import DroneSession.Yaml.Render

namespace DroneSession

/-!
# Scalars of written documents

Every scalar is written in a style in which it stands for its text.  Behind a key or a dash it is
read as one token, and the rest of its line with it.
-/

namespace Yaml

/-! ## Styles -/

/-- The styles in which a text can be written. -/
inductive Stands : ScalarStyle → String → Prop where
  | plain
      {text : String}
      (isPlain : IsPlain text.toList) :
      Stands .plain text
  | singleQuoted
      {text : String}
      (printable : ∀ character ∈ text.toList, isPrintable character = true)
      (quotable : Quotable text.toList) :
      Stands .singleQuoted text
  | doubleQuoted
      {text : String} :
      Stands .doubleQuoted text
  | literal
      {text : String}
      (nonempty : text.toList ≠ [])
      (printable : ∀ character ∈ text.toList, isPrintable character = true) :
      Stands .literal text

/-- The style that is chosen for a text is one in which it can be written. -/
theorem stands_styleOf (text : String) : Stands (styleOf text) text := by
  have allPrintable :
      (text.toList.any fun character => !isPrintable character) = false →
      ∀ character ∈ text.toList, isPrintable character = true := by
    intro none character member
    simpa using List.any_eq_false.mp none character member
  rw [styleOf]
  split
  case isTrue broken =>
    split
    case isTrue literal =>
      simp only [Writable.of, Bool.and_eq_true, Bool.not_eq_true'] at literal
      obtain ⟨⟨⟨printable, _⟩, nonempty⟩, _⟩ := literal
      exact .literal (List.isEmpty_eq_false_iff.mp nonempty) (allPrintable printable)
    case isFalse => exact .doubleQuoted
  case isFalse unbroken =>
    split
    case isTrue plain =>
      rw [Bool.and_eq_true, Bool.not_eq_true'] at plain
      refine .plain (IsPlain.of_writable ?_ plain.1)
      intro empty
      obtain rfl := String.toList_eq_nil_iff.mp empty
      exact absurd plain.2 (by decide)
    case isFalse =>
      split
      case isTrue single =>
        simp only [Writable.of, Bool.and_eq_true, Bool.not_eq_true'] at single
        obtain ⟨⟨printable, noSpaceBefore⟩, noBreakBefore⟩ := single
        have noFeed : ∀ character ∈ text.toList, character ≠ '\n' := by
          rintro character member rfl
          exact unbroken (List.elem_eq_true_of_mem member)
        exact .singleQuoted (allPrintable printable)
          (.of_pairs
            (fun character member =>
              ⟨allPrintable printable character member, noFeed character member⟩)
            noSpaceBefore noBreakBefore)
      case isFalse => exact .doubleQuoted

/-- A whole number is no text. -/
theorem PlainValue.ofWhole?_ne_text
    (text written : String) :
    ofWhole? text ≠ some (.text written) := by
  rw [ofWhole?]
  split
  · split
    · simp
    · split <;> simp
  · split
    · simp
    · split
      · simp
      · split <;> simp

/-- Only a text that stands for itself is written plain. -/
theorem of_eq_text_of_styleOf
    {text : String}
    (plain : styleOf text = .plain) :
    PlainValue.of text = .text text := by
  have untyped : isTyped text = false := by
    rw [styleOf] at plain
    split at plain
    · split at plain <;> cases plain
    · split at plain
      case isTrue chosen =>
        rw [Bool.and_eq_true, Bool.not_eq_true'] at chosen
        exact chosen.2
      case isFalse => split at plain <;> cases plain
  have itself : ∀ written, PlainValue.of text = .text written → written = text := by
    intro written value
    rw [PlainValue.of] at value
    split at value
    · cases value
    · split at value
      · cases value
      · next _ whole => exact absurd (value ▸ whole) (PlainValue.ofWhole?_ne_text text written)
      · split at value
        · cases value
          rfl
        · split at value
          · cases value
          · cases value
            rfl
  rw [isTyped] at untyped
  split at untyped
  case h_1 written value => rw [value, itself written value]
  case h_2 => cases untyped

/-- A text that is written plain is something. -/
theorem isSomething_of_styleOf
    {text : String}
    (plain : styleOf text = .plain) :
    (text.isEmpty || isNull text) = false := by
  have value := of_eq_text_of_styleOf plain
  rw [PlainValue.of] at value
  split at value
  · cases value
  · next something => rwa [Bool.not_eq_true] at something

/-- The end of a line is written where the text has none. -/
theorem toList_endLine (text : String) :
    (Node.endLine text).toList = text.toList ++ closing text.toList := by
  rw [Node.endLine, closing]
  split
  · rw [List.append_nil]
  · rw [String.toList_append]
    rfl

/-- Indentation does not change how a text ends. -/
theorem getLast?_indentLines
    (indentation : Nat)
    (begun : Bool)
    (text : List Char) :
    (indentLines indentation begun text).getLast? = text.getLast? := by
  induction text generalizing begun with
  | nil => rfl
  | cons character rest inductionHypothesis =>
      have line :
          ∀ begun,
            (character :: indentLines indentation begun rest).getLast? =
              (character :: rest).getLast? := by
        intro begun
        rw [List.getLast?_cons, List.getLast?_cons, inductionHypothesis]
      rw [indentLines]
      split
      · exact line _
      · split
        · exact line _
        · rw [List.getLast?_append, line, Option.or_of_isSome (by simp)]

/-- A text and the break that may be missing at its end, as another text has it, end their line. -/
theorem Position.column_behind_closing
    (position : Position)
    {front text : List Char}
    (same : front.getLast? = text.getLast?) :
    (position.behind (front ++ closing text)).column = 0 := by
  rw [closing]
  split
  case isTrue ended =>
    rw [List.append_nil]
    rw [Option.any_eq_true] at ended
    obtain ⟨final, last, breaks⟩ := ended
    exact Position.column_behind_of_getLast (same.trans last) breaks
  case isFalse =>
    rw [Position.behind_append]
    rfl

/-- A scalar without a tag as it is written behind a key or a dash, with the end of its line. -/
def scalarLine
    (indentation : Nat)
    (style : ScalarStyle)
    (text : String) :
    List Char :=
  (Node.writeScalar indentation none style text).toList

/-- A scalar fills its line with what is written for its text and the end that this lacks. -/
theorem scalarLine_eq
    (indentation : Nat)
    (style : ScalarStyle)
    (text : String) :
    scalarLine indentation style text =
      (writeText (indentation + 2) style text).toList
        ++ closing (writeText (indentation + 2) style text).toList :=
  toList_endLine _

/-- Behind a character that is no break the end of the line is written. -/
theorem closing_concat
    (front : List Char)
    {last : Char}
    (unbroken : isBreak last = false) :
    closing (front ++ [last]) = ['\n'] := by
  rw [closing, List.getLast?_concat, Option.any_some, unbroken, if_neg Bool.false_ne_true]

/-- Whether the end of a line is missing depends on the last character alone. -/
theorem closing_eq
    {text other : List Char}
    (same : text.getLast? = other.getLast?) :
    closing text = closing other := by
  rw [closing, closing, same]

/-- Plain text is written as it is, with the end of its line. -/
theorem scalarLine_plain
    (indentation : Nat)
    {text : String}
    (isPlain : IsPlain text.toList) :
    scalarLine indentation .plain text = text.toList ++ ['\n'] := by
  have ended : closing text.toList = ['\n'] := by
    obtain ⟨front, last, same⟩ := exists_concat isPlain.phrase.ne_nil
    rw [same]
    exact closing_concat front (isPlain.phrase.unbroken last (by simp [same]))
  rw [scalarLine_eq]
  change text.toList ++ closing text.toList = _
  rw [ended]

/-- Text in single quotes is written between them, with the end of its line. -/
theorem scalarLine_singleQuoted
    (indentation : Nat)
    (text : String) :
    scalarLine indentation .singleQuoted text =
      '\'' :: (singleQuotedBody (indentation + 2) text.toList ++ ['\''] ++ ['\n']) := by
  have written :
      (writeText (indentation + 2) .singleQuoted text).toList =
        '\'' :: singleQuotedBody (indentation + 2) text.toList ++ ['\''] := by
    rw [writeText, String.toList_ofList]
    rfl
  rw [scalarLine_eq, written, closing_concat _ rfl]
  rfl

/-- Text in double quotes is written between them, with the end of its line. -/
theorem scalarLine_doubleQuoted
    (indentation : Nat)
    (text : String) :
    scalarLine indentation .doubleQuoted text =
      '"' :: (escapedText text.toList ++ ['"'] ++ ['\n']) := by
  have written :
      (writeText (indentation + 2) .doubleQuoted text).toList =
        '"' :: escapedText text.toList ++ ['"'] := by
    rw [writeText, String.toList_append, String.toList_append, String.toList_join,
      List.flatMap_map]
    rfl
  rw [scalarLine_eq, written, closing_concat _ rfl]
  rfl

/-- Literal text is written behind its header, in lines with a margin. -/
theorem scalarLine_literal
    (indentation : Nat)
    {text : String}
    (nonempty : text.toList ≠ []) :
    scalarLine indentation .literal text =
      '|' :: (literalHints text.toList
        ++ '\n' :: indentLines (indentation + 2) false text.toList
        ++ closing text.toList) := by
  have written :
      (writeText (indentation + 2) .literal text).toList =
        '|' :: (literalHints text.toList
          ++ '\n' :: indentLines (indentation + 2) false text.toList) := by
    rw [writeText, String.toList_ofList]
    rfl
  have last :
      ('|' :: (literalHints text.toList
          ++ '\n' :: indentLines (indentation + 2) false text.toList)).getLast? =
        text.toList.getLast? := by
    have divided :
        '|' :: (literalHints text.toList
            ++ '\n' :: indentLines (indentation + 2) false text.toList) =
          '|' :: literalHints text.toList ++ ['\n']
            ++ indentLines (indentation + 2) false text.toList := by
      simp only [List.cons_append, List.append_assoc, List.nil_append]
    have ended : text.toList.getLast?.isSome = true := by
      rw [List.getLast?_eq_some_getLast nonempty]
      rfl
    rw [divided, List.getLast?_append, getLast?_indentLines, Option.or_of_isSome ended]
  rw [scalarLine_eq, written, closing_eq last]
  rfl

theorem printable_closing
    (text : List Char) :
    ∀ character ∈ closing text, isPrintable character = true := by
  intro character member
  rw [closing] at member
  split at member
  · cases member
  · rw [List.mem_singleton.mp member]
    rfl

theorem printable_literalHints
    (text : List Char) :
    ∀ character ∈ literalHints text, isPrintable character = true := by
  rw [literalHints_eq]
  cases startsIndented text <;> cases chompingOf text <;> exact forall_mem_of_all (by decide)

/-- No character is written that could not stand in a document. -/
theorem printable_writeText
    (indentation : Nat)
    {style : ScalarStyle}
    {text : String}
    (stands : Stands style text) :
    ∀ character ∈ (writeText indentation style text).toList, isPrintable character = true := by
  cases stands with
  | plain isPlain => exact isPlain.printable
  | singleQuoted printable =>
      rw [writeText, String.toList_ofList]
      exact printable_writeSingleQuoted printable indentation
  | doubleQuoted =>
      rw [writeText, String.toList_append, String.toList_append, String.toList_join,
        List.flatMap_map]
      intro character member
      rcases List.mem_append.mp member with member | closing
      · rcases List.mem_append.mp member with opening | body
        · rw [List.mem_singleton.mp opening]
          rfl
        · exact (printable_escapedText text.toList character body).1
      · rw [List.mem_singleton.mp closing]
        rfl
  | literal nonempty printable =>
      rw [writeText, String.toList_ofList, writeLiteral]
      intro character member
      rcases List.mem_cons.mp member with rfl | member
      · rfl
      rcases List.mem_append.mp member with header | member
      · exact printable_literalHints _ character header
      rcases List.mem_cons.mp member with rfl | lines
      · rfl
      rcases mem_indentLines lines with inText | rfl
      · exact printable character inText
      · rfl

namespace Reading

open Lexer (Yields)

/-! ## Plain text -/

/-- Plain text starts with a character that no other token starts with. -/
theorem startsPlainText_of_isPlain
    {first : Char}
    {rest : List Char}
    (plain : IsPlain (first :: rest))
    (stop : List Char)
    (position : Position) :
    (first = '-' ∨ first = '?' ∨ first = ':' → Writable.separates (rest ++ stop) = false) ∧
    (first ≠ '-' ∧ first ≠ '?' ∧ first ≠ ':' → isIndicator first = false) ∧
    Lexer.startsPlainText false first (position.place (rest ++ stop)) = true := by
  have opens := plain.opens
  have solid := plain.phrase.isSpace_head
  rw [Writable.startsAsIndicator] at opens
  by_cases lead : first = '-' ∨ first = '?' ∨ first = ':'
  · have unseparated : Writable.separates rest = false := by
      rwa [if_pos (by simpa using lead)] at opens
    have nonempty : rest ≠ [] := by
      rintro rfl
      cases unseparated
    have continues : Writable.separates (rest ++ stop) = false :=
      (separates_append nonempty).trans unseparated
    refine ⟨fun _ => continues, fun others => ?_, ?_⟩
    · rcases lead with dash | question | colon
      · exact absurd dash others.1
      · exact absurd question others.2.1
      · exact absurd colon others.2.2
    · obtain ⟨second, others, rfl⟩ := List.exists_cons_of_ne_nil nonempty
      have unblank : isBlank second = false :=
        not_isBlank_of_not_isSpace unseparated
      rcases lead with rfl | rfl | rfl
      · simp [Lexer.startsPlainText, Input.peek?, Position.locate, unblank]
      · simp [Lexer.startsPlainText, Input.separates, Input.peek?, Position.locate] at *
        exact unseparated
      · simp [Lexer.startsPlainText, Input.separates, Input.peek?, Position.locate] at *
        exact unseparated
  · have plainFirst : isIndicator first = false := by
      rwa [if_neg (by simpa using lead)] at opens
    refine ⟨fun given => absurd given lead, fun _ => plainFirst, ?_⟩
    rw [not_or, not_or] at lead
    simp [Lexer.startsPlainText, lead.1, lead.2.1, lead.2.2, plainFirst,
      not_isBlank_of_not_isSpace solid]

/-- Where plain text starts, the lexer goes on with plain text. -/
theorem readToken?_of_isPlain
    {first : Char}
    {rest : List Char}
    (plain : IsPlain (first :: rest))
    (stop : List Char)
    (position : Position)
    {lexer : Lexer}
    (outside : lexer.inFlow = false) :
    lexer.readToken? (position.locate first) ((position.after first).place (rest ++ stop)) =
      lexer.acceptPlainText? := by
  obtain ⟨continues, noIndicator, starts⟩ :=
    startsPlainText_of_isPlain plain stop (position.after first)
  have dash : ¬ (first = '-' ∧ Writable.separates (rest ++ stop) = true) := by
    rintro ⟨rfl, separated⟩
    rw [continues (.inl rfl)] at separated
    cases separated
  have question : ¬ (first = '?' ∧ Writable.separates (rest ++ stop) = true) := by
    rintro ⟨rfl, separated⟩
    rw [continues (.inr (.inl rfl))] at separated
    cases separated
  have colon : ¬ (first = ':' ∧ Writable.separates (rest ++ stop) = true) := by
    rintro ⟨rfl, separated⟩
    rw [continues (.inr (.inr rfl))] at separated
    cases separated
  rw [Lexer.readToken?]
  simp only [Position.locate]
  split
  case h_11 =>
    have noText : first ≠ '|' ∧ first ≠ '>' := by
      constructor
      · rintro rfl
        exact absurd (noIndicator (by decide)) (by decide)
      · rintro rfl
        exact absurd (noIndicator (by decide)) (by decide)
    simp only [outside, Position.separates_place, dash, question, colon, noText.1, noText.2, starts,
      Bool.false_eq_true, false_or, false_and, if_false, if_true]
  all_goals exact absurd (noIndicator (by decide)) (by decide)

theorem accept_lexer
    (reading : Reading)
    (keyAllowed allowed : Bool)
    (token : Token)
    (before rest : Input) :
    { (reading.lexer keyAllowed before).accept token rest with keyAllowed := allowed } =
      (reading.push [token]).lexer allowed rest := by
  simp [lexer, Lexer.accept, push]

/-- Where no key is possible, none is remembered. -/
theorem rememberKey?_lexer
    (reading : Reading)
    (rest : Input) :
    (reading.lexer false rest).rememberKey? = some (reading.lexer false rest) := by
  cases rest <;> rfl

/-- Plain text starts with a character that opens a token and no directive. -/
theorem opens_of_isPlain
    {first : Char}
    {rest : List Char}
    (plain : IsPlain (first :: rest)) :
    Opens first ∧ first ≠ '%' := by
  refine ⟨⟨plain.phrase.isSpace_head, ?_, ?_⟩, ?_⟩
  · rintro rfl
    exact plain.noComment rfl
  · rintro rfl
    exact absurd (plain.printable _ List.mem_cons_self) (by decide)
  · rintro rfl
    have opens := plain.opens
    rw [Writable.startsAsIndicator, if_neg (by decide)] at opens
    exact absurd opens (by decide)

section

variable {reading : Reading} {indentation : Nat} (level : reading.indentation = indentation)
variable {position : Position} (inside : indentation < position.column)
variable {following : List Char} (dedented : Dedented (indentation + 1) following)
variable {tokens : List Token}

include level inside dedented

/-- Plain text and the end of its line yield a plain scalar and then what follows. -/
theorem yields_of_plain
    {text : String}
    (isPlain : IsPlain text.toList)
    (yields :
      ((reading.push [.scalar .plain text]).lexer true
          ((position.behind (text.toList ++ ['\n'])).place following)).Yields tokens) :
    (reading.lexer false (position.place (text.toList ++ '\n' :: following))).Yields tokens := by
  have ends : PlainEnd (indentation + 1) ('\n' :: following) :=
    .line (Nat.succ_pos _) dedented
  have indented : indentation + 1 ≤ position.column + 1 := by
    omega
  obtain ⟨margin, rest, same, _, _, stop⟩ :=
    plainStop_line (Nat.succ_pos _) dedented (position.behind text.toList)
  have skipped :
      Lexer.skip false true false (plainStop (position.behind text.toList) ('\n' :: following)).2 =
        Lexer.skip false true false
          ((position.behind (text.toList ++ ['\n'])).place following) := by
    rw [stop, same, Position.skip_spaces, Position.behind_append]
    rfl
  have accepted :
      (reading.lexer false
          (position.place (text.toList ++ '\n' :: following))).acceptPlainText? =
        some
          ((reading.push [.scalar .plain text]).lexer true
            (plainStop (position.behind text.toList) ('\n' :: following)).2) := by
    have broken :
        (plainStop (position.behind text.toList) ('\n' :: following)).1.any isBreak = true := by
      rw [stop]
      rfl
    have deep : (reading.indentation + 1).toNat = indentation + 1 := by
      omega
    rw [Lexer.acceptPlainText?, rememberKey?_lexer]
    change
      (plainText? false (reading.indentation + 1).toNat
        (position.place (text.toList ++ '\n' :: following))).bind _ = _
    rw [deep, plainText?_place ends isPlain indented, Option.bind_some, broken,
      String.ofList_toList]
    exact congrArg some (accept_lexer reading false true _ _ _)
  obtain ⟨first, others, characters⟩ := List.exists_cons_of_ne_nil isPlain.phrase.ne_nil
  rw [characters] at isPlain skipped accepted yields ⊢
  obtain ⟨opens, noDirective⟩ := opens_of_isPlain isPlain
  have starts : (position.behind (first :: others ++ ['\n'])).column = 0 := by
    rw [Position.behind_append]
    rfl
  have read :=
    (readToken?_of_isPlain isPlain ('\n' :: following) position rfl).trans accepted
  have divided : others ++ '\n' :: following = (others ++ ['\n']) ++ following := by
    rw [List.append_assoc]
    rfl
  rw [List.cons_append] at read ⊢
  rw [divided] at read ⊢
  exact yields_of_line opens noDirective (by omega) (by omega) read skipped starts dedented yields

/-- Text between two delimiters, the last of which ends its line. -/
theorem yields_of_delimited
    {delimiter : Char}
    (opens : Opens delimiter)
    (noDirective : delimiter ≠ '%')
    {body : List Char}
    {style : ScalarStyle}
    {text : String}
    (read :
      (reading.lexer false
            (position.place (delimiter :: (body ++ ['\n'] ++ following)))).readToken?
          (position.locate delimiter)
          ((position.after delimiter).place (body ++ ['\n'] ++ following)) =
        (reading.lexer false
            (position.place (delimiter :: (body ++ ['\n'] ++ following)))).acceptPossibleKey?
          (some
            (.scalar style text,
              (position.behind (delimiter :: body)).place ('\n' :: following))))
    (yields :
      ((reading.push [.scalar style text]).lexer true
          ((position.behind (delimiter :: (body ++ ['\n']))).place following)).Yields tokens) :
    (reading.lexer false (position.place (delimiter :: (body ++ ['\n'] ++ following)))).Yields
      tokens := by
  have accepted :
      (reading.lexer false
            (position.place (delimiter :: (body ++ ['\n'] ++ following)))).acceptPossibleKey?
          (some
            (.scalar style text,
              (position.behind (delimiter :: body)).place ('\n' :: following))) =
        some
          ((reading.push [.scalar style text]).lexer false
            ((position.behind (delimiter :: body)).place ('\n' :: following))) := by
    rw [Lexer.acceptPossibleKey?, rememberKey?_lexer]
    exact congrArg some (accept_lexer reading false false _ _ _)
  have starts : (position.behind (delimiter :: (body ++ ['\n']))).column = 0 := by
    rw [← List.cons_append, Position.behind_append]
    rfl
  have skipped :
      Lexer.skip false false false
          ((position.behind (delimiter :: body)).place ('\n' :: following)) =
        Lexer.skip false true false
          ((position.behind (delimiter :: (body ++ ['\n']))).place following) := by
    rw [Position.skip_break rfl, ← List.cons_append, Position.behind_append]
    rfl
  exact yields_of_line opens noDirective (by omega) (by omega) (read.trans accepted) skipped starts
    dedented yields

/-- Text in single quotes and the end of its line yield a quoted scalar and then what follows. -/
theorem yields_of_singleQuoted
    {text : String}
    (quotable : Quotable text.toList)
    (yields :
      ((reading.push [.scalar .singleQuoted text]).lexer true
          ((position.behind
              ('\'' :: (singleQuotedBody (indentation + 2) text.toList ++ ['\''] ++ ['\n']))).place
            following)).Yields tokens) :
    (reading.lexer false
        (position.place
          ('\'' :: (singleQuotedBody (indentation + 2) text.toList ++ ['\''] ++ ['\n']
            ++ following)))).Yields tokens := by
  have behindQuote : (position.after '\'').column ≠ 0 := by
    rw [Position.column_after rfl]
    exact Nat.succ_ne_zero _
  have body :
      singleQuotedBody (indentation + 2) text.toList ++ ['\''] ++ ['\n'] ++ following =
        singleQuotedBody (indentation + 2) text.toList ++ '\'' :: '\n' :: following := by
    simp only [List.append_assoc, List.cons_append, List.nil_append]
  have stops : ('\n' :: following).head? ≠ some '\'' := by
    simp
  have quoted :=
    singleQuoted?_body (Nat.succ_pos (indentation + 1)) quotable behindQuote stops
  rw [← body] at quoted
  refine yields_of_delimited level inside dedented ⟨rfl, by decide, by decide⟩ (by decide) ?_ yields
  change Lexer.acceptPossibleKey? _ ((singleQuoted? _).map _) = _
  simp only [quoted, Option.map_some, String.ofList_toList]
  rfl

/-- Text in double quotes and the end of its line yield a quoted scalar and then what follows. -/
theorem yields_of_doubleQuoted
    {text : String}
    (yields :
      ((reading.push [.scalar .doubleQuoted text]).lexer true
          ((position.behind
              ('"' :: (escapedText text.toList ++ ['"'] ++ ['\n']))).place following)).Yields
        tokens) :
    (reading.lexer false
        (position.place
          ('"' :: (escapedText text.toList ++ ['"'] ++ ['\n'] ++ following)))).Yields tokens := by
  have behindQuote : (position.after '"').column ≠ 0 := by
    rw [Position.column_after rfl]
    exact Nat.succ_ne_zero _
  have body :
      escapedText text.toList ++ ['"'] ++ ['\n'] ++ following =
        escapedText text.toList ++ '"' :: '\n' :: following := by
    simp only [List.append_assoc, List.cons_append, List.nil_append]
  have quoted := doubleQuoted?_escapedText behindQuote text.toList ('\n' :: following)
  rw [← body] at quoted
  refine yields_of_delimited level inside dedented ⟨rfl, by decide, by decide⟩ (by decide) ?_ yields
  change Lexer.acceptPossibleKey? _ ((doubleQuoted? _).map _) = _
  simp only [quoted, Option.map_some, String.ofList_toList]
  rfl

/-- Literal text with its header yields a literal scalar and then what follows. -/
theorem yields_of_literal
    {text : String}
    (nonempty : text.toList ≠ [])
    (printable : ∀ character ∈ text.toList, isPrintable character = true)
    (yields :
      ((reading.push [.scalar .literal text]).lexer true
          ((position.behind
              ('|' :: (literalHints text.toList
                ++ '\n' :: indentLines (indentation + 2) false text.toList
                ++ closing text.toList))).place following)).Yields tokens) :
    (reading.lexer false
        (position.place
          ('|' :: (literalHints text.toList
            ++ '\n' :: indentLines (indentation + 2) false text.toList
            ++ closing text.toList ++ following)))).Yields tokens := by
  obtain ⟨rest, skipped, read⟩ :=
    blockText?_literal nonempty printable (dedented.mono (Nat.le_succ _)) (position.after '|')
  have starts :
      (position.behind
        ('|' :: (literalHints text.toList
          ++ '\n' :: indentLines (indentation + 2) false text.toList
          ++ closing text.toList))).column = 0 := by
    rw [Position.behind_cons, List.append_assoc, Position.behind_append, List.cons_append,
      Position.behind_cons]
    exact Position.column_behind_closing _ (getLast?_indentLines _ _ _)
  have accepted :
      (reading.lexer false
            (position.place
              ('|' :: (literalHints text.toList
                ++ '\n' :: indentLines (indentation + 2) false text.toList
                ++ closing text.toList ++ following)))).readToken?
          (position.locate '|')
          ((position.after '|').place
            (literalHints text.toList
              ++ '\n' :: indentLines (indentation + 2) false text.toList
              ++ closing text.toList ++ following)) =
        some ((reading.push [.scalar .literal text]).lexer true rest) := by
    change Lexer.acceptBlockText? _ true _ = _
    rw [Lexer.acceptBlockText?]
    change (blockText? true reading.indentation _).bind _ = _
    rw [level, read, Option.bind_some]
    simp only [if_true, String.ofList_toList]
    exact congrArg some (accept_lexer reading false true _ _ _)
  exact yields_of_line ⟨rfl, by decide, by decide⟩ (by decide) (by omega) (by omega) accepted
    skipped starts dedented yields

/-- A scalar without a tag behind a key or a dash. -/
theorem yields_of_scalarLine
    {style : ScalarStyle}
    {text : String}
    (stands : Stands style text)
    (yields :
      ((reading.push [.scalar style text]).lexer true
          ((position.behind (scalarLine indentation style text)).place following)).Yields tokens) :
    (reading.lexer false
        (position.place (scalarLine indentation style text ++ following))).Yields tokens := by
  cases stands with
  | plain isPlain =>
      rw [scalarLine_plain indentation isPlain] at yields ⊢
      rw [List.append_assoc]
      exact yields_of_plain level inside dedented isPlain yields
  | singleQuoted printable quotable =>
      rw [scalarLine_singleQuoted] at yields ⊢
      exact yields_of_singleQuoted level inside dedented quotable yields
  | doubleQuoted =>
      rw [scalarLine_doubleQuoted] at yields ⊢
      exact yields_of_doubleQuoted level inside dedented yields
  | literal nonempty printable =>
      rw [scalarLine_literal indentation nonempty] at yields ⊢
      exact yields_of_literal level inside dedented nonempty printable yields

end

end Reading

end Yaml

end DroneSession
