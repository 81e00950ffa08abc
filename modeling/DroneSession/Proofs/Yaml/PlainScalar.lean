import DroneSession.Proofs.Yaml.Position

namespace DroneSession

/-!
# Plain text reads back

Plain text consists of words with spaces between them.  No word ends early, and no line of it starts
with a mark, so it is read up to the colon behind a key or up to the end of its line.
-/

namespace Yaml

open Writable (separates endsEarly startsAsMark startsAsIndicator)

/-! ## Words -/

/-- Characters that plain text takes for a part of one word, whatever separator follows them. -/
def isWordText : List Char → Bool
  | [] => true
  | character :: rest =>
      !isSpace character && !(character == ':' && separates rest) && isWordText rest

/-- No character of a word is a space. -/
theorem isSpace_of_isWordText
    {word : List Char}
    (solid : isWordText word = true) :
    ∀ character ∈ word, isSpace character = false := by
  induction word with
  | nil =>
      intro character member
      cases member
  | cons first rest inductionHypothesis =>
      simp only [isWordText, Bool.and_eq_true, Bool.not_eq_true'] at solid
      intro character member
      rcases List.mem_cons.mp member with rfl | later
      · exact solid.1.1
      · exact inductionHypothesis solid.2 character later

/-- What ends plain text: the colon behind a key, or a line break in front of a new entry. -/
inductive PlainEnd (indentation : Nat) : List Char → Prop where
  | colon
      {later : List Char}
      (separated : separates later = true) :
      PlainEnd indentation (':' :: later)
  | line
      {following : List Char}
      (indented : 0 < indentation)
      (dedented : Dedented indentation following) :
      PlainEnd indentation ('\n' :: following)

theorem separates_append
    {word stop : List Char}
    (nonempty : word ≠ []) :
    separates (word ++ stop) = separates word := by
  cases word with
  | nil => exact absurd rfl nonempty
  | cons character rest => rfl

/-- A word is read up to where plain text stops for a word. -/
theorem plainWord?_place
    {word stop : List Char}
    (solid : isWordText word = true)
    (stops : ∀ position : Position,
      plainWord? false (position.place stop) = some ([], position.place stop))
    (position : Position) :
    plainWord? false (position.place (word ++ stop)) =
      some (word, (position.behind word).place stop) := by
  induction word generalizing position with
  | nil => exact stops position
  | cons character rest inductionHypothesis =>
      simp only [isWordText, Bool.and_eq_true, Bool.not_eq_true', Bool.and_eq_false_iff,
        beq_eq_false_iff_ne] at solid
      obtain ⟨⟨solidFirst, noEnd⟩, solidRest⟩ := solid
      have goesOn :
          endsKey character ((position.after character).place (rest ++ stop)) = false := by
        rw [endsKey, Position.separates_place, Bool.and_eq_false_iff, beq_eq_false_iff_ne]
        rcases noEnd with other | unseparated
        · exact .inl other
        · have nonempty : rest ≠ [] := by
            rintro rfl
            exact absurd unseparated (by decide)
          exact .inr ((separates_append nonempty).trans unseparated)
      rw [List.cons_append, Position.place_cons, plainWord?]
      simp [Position.locate, solidFirst, goesOn, inductionHypothesis solidRest]

/-- A space ends a word. -/
theorem plainWord?_of_isSpace
    {first : Char}
    (space : isSpace first = true)
    (later : List Char)
    (position : Position) :
    plainWord? false (position.place (first :: later)) =
      some ([], position.place (first :: later)) := by
  rw [Position.place_cons, plainWord?]
  simp [Position.locate, space]

/-- Plain text stops for no word behind its end. -/
theorem PlainEnd.stops
    {indentation : Nat}
    {stop : List Char}
    (ends : PlainEnd indentation stop)
    (position : Position) :
    plainWord? false (position.place stop) = some ([], position.place stop) := by
  cases ends with
  | colon separated =>
      have key : ∀ next : Position, endsKey ':' (next.place _) = true := fun next => by
        rw [endsKey, Position.separates_place, separated]
        rfl
      rw [Position.place_cons, plainWord?]
      simp [Position.locate, key]
  | line => exact plainWord?_of_isSpace rfl _ position

/-! ## Phrases -/

/-- Words of one line with spaces between them. -/
inductive Phrase : List Char → Prop where
  | word
      {word : List Char}
      (nonempty : word ≠ [])
      (solid : isWordText word = true) :
      Phrase word
  | more
      {word later : List Char}
      (nonempty : word ≠ [])
      (solid : isWordText word = true)
      (gap : Nat)
      (noComment : later.head? ≠ some '#')
      (phrase : Phrase later) :
      Phrase (word ++ (spaces (gap + 1) ++ later))

theorem Phrase.ne_nil
    {text : List Char}
    (phrase : Phrase text) :
    text ≠ [] := by
  cases phrase with
  | word nonempty => exact nonempty
  | more nonempty => exact List.append_ne_nil_of_left_ne_nil nonempty _

/-- A phrase stands in one line. -/
theorem Phrase.unbroken
    {text : List Char}
    (phrase : Phrase text) :
    ∀ character ∈ text, isBreak character = false := by
  have ofWord :
      ∀ {word : List Char},
        isWordText word = true → ∀ character ∈ word, isBreak character = false :=
    fun solid character member =>
      not_isBreak_of_not_isSpace (isSpace_of_isWordText solid character member)
  induction phrase with
  | word nonempty solid => exact ofWord solid
  | more nonempty solid gap noComment phrase inductionHypothesis =>
      intro character member
      rcases List.mem_append.mp member with inWord | later
      · exact ofWord solid character inWord
      · rcases List.mem_append.mp later with inGap | inLater
        · exact Position.isBreak_of_mem_spaces inGap
        · exact inductionHypothesis character inLater

/-- A phrase starts with a character of a word. -/
theorem Phrase.isSpace_head
    {first : Char}
    {rest : List Char}
    (phrase : Phrase (first :: rest)) :
    isSpace first = false := by
  have ofWord :
      ∀ {word later : List Char},
        word ≠ [] →
        isWordText word = true →
        first :: rest = word ++ later →
        isSpace first = false := by
    intro word later nonempty solid same
    cases word with
    | nil => exact absurd rfl nonempty
    | cons character word =>
        rw [(List.cons.inj same).1]
        exact isSpace_of_isWordText solid character List.mem_cons_self
  generalize whole : first :: rest = text at phrase
  cases phrase with
  | word nonempty solid => exact ofWord nonempty solid (whole.trans (List.append_nil _).symm)
  | more nonempty solid => exact ofWord nonempty solid whole

/-- A phrase with one more character in front of its first word. -/
theorem Phrase.cons
    {character : Char}
    {text : List Char}
    (phrase : Phrase text)
    (solid : isSpace character = false)
    (noEnd : (character == ':' && separates text) = false) :
    Phrase (character :: text) := by
  have extended :
      ∀ {word later : List Char},
        word ≠ [] →
        isWordText word = true →
        (character == ':' && separates (word ++ later)) = false →
        isWordText (character :: word) = true := by
    intro word later nonempty solidWord noEnd
    rw [separates_append nonempty] at noEnd
    simp only [isWordText, solid, noEnd, solidWord, Bool.not_false, Bool.and_self]
  cases phrase with
  | word nonempty solidWord =>
      have same : (character == ':' && separates (text ++ [])) = false := by
        rwa [List.append_nil]
      exact .word (List.cons_ne_nil _ _) (extended nonempty solidWord same)
  | more nonempty solidWord gap noComment phrase =>
      rw [← List.cons_append]
      exact .more (List.cons_ne_nil _ _) (extended nonempty solidWord noEnd) gap noComment phrase

/-- A text of one line that does not end early, and does not end with a space, is a phrase. -/
theorem exists_phrase
    {text : List Char}
    {separated : Bool}
    (nonempty : text ≠ [])
    (solid : ∀ character ∈ text, isSpace character = true → character = ' ')
    (noSpace : text.getLast? ≠ some ' ')
    (goesOn : endsEarly separated text = false) :
    ∃ gap phrase,
      text = spaces gap ++ phrase ∧
      Phrase phrase ∧
      (separated = true ∨ 0 < gap → phrase.head? ≠ some '#') := by
  induction text generalizing separated with
  | nil => exact absurd rfl nonempty
  | cons character rest inductionHypothesis =>
      simp only [endsEarly, Bool.or_eq_false_iff] at goesOn
      obtain ⟨⟨noEnd, noComment⟩, goesOnLater⟩ := goesOn
      cases rest with
      | nil =>
          have solidFirst : isSpace character = false := by
            rw [Bool.eq_false_iff]
            intro space
            rw [solid character List.mem_cons_self space] at noSpace
            exact noSpace rfl
          refine ⟨0, [character], rfl, .word (List.cons_ne_nil _ _) ?_, ?_⟩
          · simp only [isWordText, solidFirst, noEnd, Bool.not_false, Bool.and_self]
          · rintro (rfl | impossible)
            · rw [Bool.and_true, beq_eq_false_iff_ne] at noComment
              simpa using noComment
            · exact absurd impossible (Nat.lt_irrefl 0)
      | cons second others =>
          obtain ⟨gap, phrase, same, later, opens⟩ :=
            inductionHypothesis (List.cons_ne_nil _ _)
              (fun other member => solid other (List.mem_cons_of_mem _ member))
              (by rwa [List.getLast?_cons_cons] at noSpace) goesOnLater
          cases space : isSpace character with
          | true =>
              obtain rfl := solid character List.mem_cons_self space
              exact ⟨gap + 1, phrase, by rw [same]; rfl, later, fun _ => opens (.inl rfl)⟩
          | false =>
              have noCommentFirst : separated = true ∨ 0 < 0 → character ≠ '#' := by
                rintro (rfl | impossible)
                · simpa using noComment
                · exact absurd impossible (Nat.lt_irrefl 0)
              rw [same] at noEnd ⊢
              cases gap with
              | zero =>
                  exact ⟨0, character :: phrase, rfl, later.cons space noEnd,
                    fun given => by simpa using noCommentFirst given⟩
              | succ gap =>
                  have noColon : (character == ':') = false := by
                    have separatedByGap : separates (spaces (gap + 1) ++ phrase) = true := rfl
                    rwa [separatedByGap, Bool.and_true] at noEnd
                  have solidWord : isWordText [character] = true := by
                    simp only [isWordText, space, noColon, Bool.not_false, Bool.false_and,
                      Bool.and_self]
                  exact ⟨0, [character] ++ (spaces (gap + 1) ++ phrase), rfl,
                    .more (List.cons_ne_nil _ _) solidWord gap
                      (opens (.inr (Nat.succ_pos gap))) later,
                    fun given => by simpa using noCommentFirst given⟩

/-- A text that can be written as it is. -/
structure IsPlain (text : List Char) : Prop where
  printable : ∀ character ∈ text, isPrintable character = true
  phrase : Phrase text
  unmarked : startsAsMark text = false
  opens : startsAsIndicator text = false

/-- Text that the writer finds plain can be written as it is. -/
theorem IsPlain.of_writable
    {text : List Char}
    (nonempty : text ≠ [])
    (plain : (Writable.of text).plain = true) :
    IsPlain text := by
  simp only [Writable.of, Bool.and_eq_true, Bool.not_eq_true', List.any_eq_false, Bool.not_eq_true,
    Bool.not_eq_false] at plain
  obtain ⟨⟨⟨⟨⟨⟨⟨printable, _⟩, unbroken⟩, noFirst⟩, noLast⟩, unmarked⟩, opens⟩, goesOn⟩ := plain
  have solid : ∀ character ∈ text, isSpace character = true → character = ' ' := by
    intro character member space
    rw [isSpace, unbroken character member, Bool.or_false] at space
    exact eq_space_of_isBlank (printable character member) space
  have noSpace : text.getLast? ≠ some ' ' := by
    intro last
    rw [last] at noLast
    exact absurd noLast (by decide)
  obtain ⟨gap, phrase, same, isPhrase, _⟩ := exists_phrase nonempty solid noSpace goesOn
  cases gap with
  | zero =>
      have same : text = phrase := same
      exact ⟨printable, same ▸ isPhrase, unmarked, opens⟩
  | succ gap =>
      rw [same] at noFirst
      simp [spaces, List.replicate_succ] at noFirst

/-- Plain text does not start with the mark of a comment. -/
theorem IsPlain.noComment
    {text : List Char}
    (plain : IsPlain text) :
    text.head? ≠ some '#' := by
  intro comment
  obtain ⟨rest, rfl⟩ := List.head?_eq_some_iff.mp comment
  have opens := plain.opens
  simp [startsAsIndicator, isIndicator] at opens

/-! ## Reading phrases -/

/-- Without tabs none is misplaced. -/
theorem hasMisplacedTab_place
    {run rest : List Char}
    (untabbed : ∀ character ∈ run, character ≠ '\t')
    (outside : Position.StartsOutside isSpace rest)
    (indentation : Nat)
    (broken : Bool)
    (position : Position) :
    hasMisplacedTab indentation broken (position.place (run ++ rest)) = false := by
  induction run generalizing position broken with
  | nil =>
      cases rest with
      | nil => rfl
      | cons character rest =>
          have solid : isSpace character = false :=
            outside character rfl
          rw [List.nil_append, Position.place_cons, hasMisplacedTab]
          simp [Position.locate, not_isBreak_of_not_isSpace solid, not_isBlank_of_not_isSpace solid]
  | cons character run inductionHypothesis =>
      have noTab : character ≠ '\t' :=
        untabbed character List.mem_cons_self
      have later := fun broken =>
        inductionHypothesis (fun other member => untabbed other (List.mem_cons_of_mem _ member))
          broken (position.after character)
      rw [List.cons_append, Position.place_cons, hasMisplacedTab]
      simp [Position.locate, noTab, later]

/-- There is no mark behind the start of a line. -/
theorem atBoundary_of_column
    {position : Position}
    (behindStart : position.column ≠ 0)
    (text : List Char) :
    Input.atBoundary (position.place text) = false := by
  cases text with
  | nil => rfl
  | cons character rest =>
      simp [Input.atBoundary, Input.atMark, Input.column, Position.locate, behindStart]

/-- The separators behind the last word of plain text, and what follows them. -/
def plainStop
    (position : Position)
    (stop : List Char) :
    List Char × Input :=
  Input.span (position.place stop) isSpace

/-- Behind the end of its line plain text stops in front of a line that is not indented as far. -/
theorem plainStop_line
    {indentation : Nat}
    {following : List Char}
    (indented : 0 < indentation)
    (dedented : Dedented indentation following)
    (position : Position) :
    ∃ margin rest,
      following = spaces margin ++ rest ∧
      Position.StartsOutside isSpace rest ∧
      margin < indentation ∧
      plainStop position ('\n' :: following) =
        ('\n' :: spaces margin,
          (position.behind ('\n' :: spaces margin)).place rest) := by
  have inside :
      ∀ margin, ∀ character ∈ '\n' :: spaces margin, isSpace character = true := by
    intro margin character member
    rcases List.mem_cons.mp member with rfl | blank
    · rfl
    · rw [List.eq_of_mem_replicate blank]
      rfl
  have nothing : Position.StartsOutside isSpace [] := fun _ impossible => nomatch impossible
  rcases dedented with rfl | ⟨margin, below, first, rest, rfl, opens⟩
  · exact ⟨0, [], rfl, nothing, indented,
      Position.span_place (inside 0) nothing position⟩
  · have outside : Position.StartsOutside isSpace (first :: rest) := by
      rintro character ⟨⟩
      exact opens.solid
    exact ⟨margin, first :: rest, rfl, outside, below,
      Position.span_place (inside margin) outside position⟩

/-- A word takes as many columns as it has characters. -/
theorem isWordText_behind
    {word : List Char}
    (solid : isWordText word = true)
    (position : Position) :
    (position.behind word).column = position.column + word.length :=
  Position.column_behind fun character member =>
    not_isBreak_of_not_isSpace (isSpace_of_isWordText solid character member)

theorem any_isBreak_spaces
    (count : Nat) :
    (spaces count).any isBreak = false :=
  List.any_eq_false.mpr fun _ member => Bool.eq_false_iff.mp (Position.isBreak_of_mem_spaces member)

/-- Separators without a line break stand for themselves. -/
theorem fold_eq_self
    {separators : List Char}
    (unbroken : separators.any isBreak = false) :
    fold separators = separators := by
  have nothing : separators.filter isBreak = [] := by
    simpa [List.filter_eq_nil_iff] using unbroken
  rw [fold, nothing]

section

variable {word : List Char} (nonempty : word ≠ []) (solid : isWordText word = true)

include nonempty

theorem opens_place
    (noComment : word.head? ≠ some '#')
    (later : List Char)
    (position : Position) :
    (Input.peek? (position.place (word ++ later)) 0 == some '#') = false := by
  rw [Position.peek?_place]
  cases word with
  | nil => exact absurd rfl nonempty
  | cons character rest => simpa using noComment

include solid

/-- A word that is not the last one of its line. -/
theorem plainWords?_gap
    {indentation : Nat}
    {position : Position}
    (indented : indentation ≤ position.column + 1)
    (gap : Nat)
    {first : Char}
    (solidFirst : isSpace first = false)
    (later : List Char)
    (unmarked :
      Input.atBoundary (position.place (word ++ (spaces (gap + 1) ++ first :: later))) = false)
    (noComment : word.head? ≠ some '#')
    (separators : List Char)
    (next : Located)
    (bound : Input) :
    plainWords? false indentation separators
        (position.place (word ++ (spaces (gap + 1) ++ first :: later))) (next :: bound) =
      (plainWords? false indentation (spaces (gap + 1))
          ((position.behind (word ++ spaces (gap + 1))).place (first :: later)) bound).map
        fun others => { others with text := fold separators ++ word ++ others.text } := by
  have outside : Position.StartsOutside isSpace (first :: later) := by
    rintro character ⟨⟩
    exact solidFirst
  have blank : ∀ character ∈ spaces (gap + 1), isSpace character = true := by
    intro character member
    rw [List.eq_of_mem_replicate member]
    rfl
  have untabbed : ∀ character ∈ spaces (gap + 1), character ≠ '\t' := by
    rintro character member rfl
    exact absurd (List.eq_of_mem_replicate member) (by decide)
  have readWord :
      plainWord? false (position.place (word ++ (spaces (gap + 1) ++ first :: later))) =
        some (word, (position.behind word).place (spaces (gap + 1) ++ first :: later)) :=
    plainWord?_place solid (plainWord?_of_isSpace rfl _) position
  have readSpaces :=
    Position.span_place blank outside (position.behind word)
  have noTab :=
    hasMisplacedTab_place untabbed outside indentation false (position.behind word)
  have far :
      ¬ Input.column (((position.behind word).behind (spaces (gap + 1))).place (first :: later)) <
        indentation := by
    change ¬ ((position.behind word).behind (spaces (gap + 1))).column < indentation
    rw [Position.column_behind_spaces, isWordText_behind solid]
    have length := List.length_pos_iff.mpr nonempty
    omega
  have spaced : (spaces (gap + 1)).isEmpty = false :=
    rfl
  rw [plainWords?, unmarked, opens_place nonempty noComment, readWord, Position.behind_append]
  simp only [Bool.or_self, Bool.false_eq_true, if_false, Option.bind_eq_bind, Option.bind_some,
    List.isEmpty_eq_false_iff.mpr nonempty, readSpaces, spaced, noTab, far, decide_false,
    Bool.not_false, Bool.true_and, Option.map_eq_bind]
  rfl

end

section

variable {indentation : Nat} {stop : List Char} (ends : PlainEnd indentation stop)

include ends

/-- The last word of plain text. -/
theorem plainWords?_word
    {word : List Char}
    (nonempty : word ≠ [])
    (solid : isWordText word = true)
    (separators : List Char)
    {position : Position}
    (unmarked : Input.atBoundary (position.place (word ++ stop)) = false)
    (noComment : word.head? ≠ some '#')
    (next : Located)
    (bound : Input) :
    plainWords? false indentation separators (position.place (word ++ stop)) (next :: bound) =
      some
        { text := fold separators ++ word
          broken := (plainStop (position.behind word) stop).1.any isBreak
          rest := (plainStop (position.behind word) stop).2 } := by
  rw [plainWords?, unmarked, opens_place nonempty noComment,
    plainWord?_place solid ends.stops position]
  simp only [Bool.or_self, Bool.false_eq_true, if_false, Option.bind_eq_bind, Option.bind_some,
    List.isEmpty_eq_false_iff.mpr nonempty]
  cases ends with
  | @colon later separated =>
      have unspaced :
          plainStop (position.behind word) (':' :: later) =
            ([], (position.behind word).place (':' :: later)) :=
        rfl
      rw [plainStop] at unspaced
      simp only [plainStop, unspaced, List.isEmpty_nil, if_true, List.any_nil, Option.pure_def]
  | line indented dedented =>
      obtain ⟨margin, rest, rfl, outside, below, read⟩ :=
        plainStop_line indented dedented (position.behind word)
      have untabbed : ∀ character ∈ '\n' :: spaces margin, character ≠ '\t' := by
        rintro character member rfl
        rcases List.mem_cons.mp member with equal | blank
        · exact absurd equal (by decide)
        · exact absurd (List.eq_of_mem_replicate blank) (by decide)
      have noTab :=
        hasMisplacedTab_place untabbed outside indentation false (position.behind word)
      rw [List.cons_append] at noTab
      have dedents :
          Input.column (((position.behind word).behind ('\n' :: spaces margin)).place rest) <
            indentation := by
        cases rest with
        | nil => exact indented
        | cons first rest =>
            refine lt_of_eq_of_lt ?_ below
            rw [Position.behind_cons, Position.place_cons, Input.column, Position.locate,
              Position.column_behind_spaces]
            exact Nat.zero_add margin
      rw [plainStop] at read ⊢
      simp only [read, noTab, dedents, List.isEmpty_cons, Bool.false_eq_true, if_false, if_true,
        Bool.not_false, Bool.true_and, decide_true, Option.pure_def]

/-- All words of plain text; the text has to be indented, but for its first character. -/
theorem plainWords?_phrase
    {text : List Char}
    (phrase : Phrase text)
    (separators : List Char)
    {position : Position}
    (indented : indentation ≤ position.column + 1)
    (unmarked : Input.atBoundary (position.place (text ++ stop)) = false)
    (noComment : text.head? ≠ some '#')
    {bound : Input}
    (enough : text.length ≤ bound.length) :
    plainWords? false indentation separators (position.place (text ++ stop)) bound =
      some
        { text := fold separators ++ text
          broken := (plainStop (position.behind text) stop).1.any isBreak
          rest := (plainStop (position.behind text) stop).2 } := by
  induction phrase generalizing separators position bound with
  | word nonempty solid =>
      cases bound with
      | nil => exact absurd (List.eq_nil_of_length_eq_zero (Nat.le_zero.mp enough)) nonempty
      | cons next bound =>
          exact plainWords?_word ends nonempty solid separators unmarked noComment next bound
  | @more word later nonempty solid gap noCommentLater phrase inductionHypothesis =>
      have positive := List.length_pos_iff.mpr nonempty
      rw [List.length_append] at enough
      cases bound with
      | nil =>
          rw [List.length_nil] at enough
          omega
      | cons next bound =>
          obtain ⟨first, others, rfl⟩ := List.exists_cons_of_ne_nil phrase.ne_nil
          have column :
              (position.behind (word ++ spaces (gap + 1))).column =
                position.column + word.length + (gap + 1) := by
            rw [Position.behind_append, Position.column_behind_spaces, isWordText_behind solid]
          have remaining : (first :: others).length ≤ List.length bound := by
            simp only [List.length_append, spaces, List.length_replicate, List.length_cons]
              at enough ⊢
            omega
          have indentedLater :
              indentation ≤ (position.behind (word ++ spaces (gap + 1))).column + 1 := by
            omega
          have behindStart : (position.behind (word ++ spaces (gap + 1))).column ≠ 0 := by
            omega
          have unmarkedLater := atBoundary_of_column behindStart (first :: others ++ stop)
          have readLater :=
            inductionHypothesis (spaces (gap + 1)) indentedLater unmarkedLater noCommentLater
              remaining
          rw [List.head?_append, Option.or_of_isSome (List.isSome_head?.mpr nonempty)] at noComment
          rw [List.append_assoc, List.append_assoc] at unmarked ⊢
          rw [List.cons_append] at unmarked readLater ⊢
          rw [plainWords?_gap nonempty solid indented gap phrase.isSpace_head _ unmarked noComment,
            readLater, fold_eq_self (any_isBreak_spaces _), Option.map_some]
          simp only [List.append_assoc, Position.behind_append]

/-- No mark starts where plain text starts. -/
theorem atBoundary_of_startsAsMark
    {text : List Char}
    (unmarked : startsAsMark text = false)
    (position : Position) :
    Input.atBoundary (position.place (text ++ stop)) = false := by
  have noMark :
      ∀ mark : Char,
        mark ≠ ':' →
        mark ≠ '\n' →
        [mark, mark, mark].isPrefixOf text = false →
        Input.atMark (position.place (text ++ stop)) mark = false := by
    intro mark noColon noBreak noPrefix
    rw [Bool.eq_false_iff]
    intro marked
    simp only [Input.atMark, Position.peek?_place, Bool.and_eq_true, beq_iff_eq] at marked
    obtain ⟨⟨⟨⟨_, first⟩, second⟩, third⟩, _⟩ := marked
    have noStop : stop[0]? ≠ some mark := by
      cases ends <;> simp [noColon.symm, noBreak.symm]
    match text with
    | [] => exact noStop first
    | [_] => exact noStop second
    | [_, _] => exact noStop third
    | one :: two :: three :: rest =>
        simp only [List.cons_append, List.getElem?_cons_zero, List.getElem?_cons_succ,
          Option.some.injEq] at first second third
        simp [first, second, third, List.isPrefixOf] at noPrefix
  simp only [startsAsMark, Bool.or_eq_false_iff] at unmarked
  rw [Input.atBoundary, noMark '-' (by decide) (by decide) unmarked.1,
    noMark '.' (by decide) (by decide) unmarked.2, Bool.or_self]

/-- Plain text as a whole. -/
theorem plainText?_place
    {text : List Char}
    (plain : IsPlain text)
    {position : Position}
    (indented : indentation ≤ position.column + 1) :
    plainText? false indentation (position.place (text ++ stop)) =
      some
        { text := text
          broken := (plainStop (position.behind text) stop).1.any isBreak
          rest := (plainStop (position.behind text) stop).2 } := by
  have enough : text.length ≤ List.length (position.place (text ++ stop)) := by
    rw [Position.length_place, List.length_append]
    exact Nat.le_add_right _ _
  exact plainWords?_phrase ends plain.phrase [] indented
    (atBoundary_of_startsAsMark ends plain.unmarked position) plain.noComment enough

end

end Yaml

end DroneSession
