import DroneSession.Proofs.Yaml.QuotedScalar

namespace DroneSession

/-!
# Literal text reads back

Literal text consists of lines, with runs of line breaks between them.  The header tells the reader
how far the lines are indented, if they do not show it themselves, and how many of the breaks at the
end belong to the text.
-/

namespace Yaml

open Position (StartsOutside)

/-! ## The header -/

/-- What the header of literal text says. -/
def hints
    (indented : Bool)
    (chomping : Chomping) :
    List Char :=
  (if indented then ['2'] else [])
    ++ match chomping with
       | .strip => ['-']
       | .clip => []
       | .keep => ['+']

/-- The header of literal text is read back with what it says about indentation and end. -/
theorem blockHeader?_hints
    (indented : Bool)
    (chomping : Chomping)
    (text : List Char)
    (position : Position) :
    blockHeader? (position.place (hints indented chomping ++ '\n' :: text)) =
      some
        (⟨chomping, if indented then some 2 else none⟩,
          (position.behind (hints indented chomping)).place ('\n' :: text)) := by
  cases indented <;> cases chomping <;> rfl

theorem endOfLine?_break
    (text : List Char)
    (position : Position) :
    endOfLine? (position.place ('\n' :: text)) = some ((position.after '\n').place text) :=
  rfl

/-! ## Blank lines -/

/-- Spaces that may be indentation are passed over in front of a line. -/
theorem blankLines?_spaces
    {indentation : Option Nat}
    {count : Nat}
    {position : Position}
    (inside : ∀ column ∈ indentation, position.column + count ≤ column)
    (greatest : Nat)
    (text : List Char) :
    blankLines? indentation greatest (position.place (spaces count ++ text)) =
      blankLines? indentation greatest ((position.behind (spaces count)).place text) := by
  induction count generalizing position with
  | zero => rfl
  | succ count inductionHypothesis =>
      have later :
          ∀ column ∈ indentation, (position.after ' ').column + count ≤ column := by
        intro column given
        rw [Position.column_after rfl]
        have bound := inside column given
        omega
      have divided : spaces (count + 1) = ' ' :: spaces count :=
        rfl
      rw [divided, List.cons_append, Position.place_cons,
        blankLines?.eq_def indentation greatest (_ :: _)]
      cases indentation with
      | none => exact inductionHypothesis later
      | some column =>
          have here : position.column < column := by
            have bound := inside column rfl
            omega
          simp only [Position.locate, here, decide_true, beq_self_eq_true, Bool.and_self, if_true]
          exact inductionHypothesis later

/-- A line that starts where the indentation ends is not blank. -/
theorem blankLines?_solid
    {indentation : Option Nat}
    {character : Char}
    {position : Position}
    (solid : isSpace character = false ∨
      isBreak character = false ∧ indentation = some position.column)
    (greatest : Nat)
    (text : List Char) :
    blankLines? indentation greatest (position.place (character :: text)) =
      some ⟨[], max greatest position.column, position.place (character :: text)⟩ := by
  rw [Position.place_cons, blankLines?.eq_def]
  rcases solid with solid | ⟨unbroken, rfl⟩
  · have unbroken := not_isBreak_of_not_isSpace solid
    have unblank := not_isBlank_of_not_isSpace solid
    simp only [isBlank, Bool.or_eq_false_iff, beq_eq_false_iff_ne] at unblank
    simp [Position.locate, unbroken, unblank.1, unblank.2]
  · simp [Position.locate, unbroken]

/-- The breaks of blank lines are read one after another. -/
theorem blankLines?_breaks
    {indentation : Nat}
    {run text : List Char}
    {position : Position}
    (breaks : ∀ character ∈ run, isBreak character = true)
    {rest : Input}
    (read :
      ∀ greatest, ∃ last,
        blankLines? (some indentation) greatest ((position.behind run).place text) =
          some ⟨[], last, rest⟩)
    (greatest : Nat) :
    ∃ last,
      blankLines? (some indentation) greatest (position.place (run ++ text)) =
        some ⟨run, last, rest⟩ := by
  induction run generalizing position greatest with
  | nil => exact read greatest
  | cons character run inductionHypothesis =>
      have breaksFirst := breaks character List.mem_cons_self
      have noSpace : character ≠ ' ' := by
        rintro rfl
        exact absurd breaksFirst (by decide)
      have noTab : character ≠ '\t' := by
        rintro rfl
        exact absurd breaksFirst (by decide)
      obtain ⟨last, readLater⟩ :=
        inductionHypothesis (fun other member => breaks other (List.mem_cons_of_mem _ member)) read
          (max greatest position.column)
      refine ⟨last, ?_⟩
      rw [List.cons_append, Position.place_cons, blankLines?]
      simp [Position.locate, breaksFirst, noSpace, noTab, readLater]

/-- The margin of a line is blank. -/
theorem blankLines?_margin
    {position : Position}
    (starts : position.column = 0)
    (indentation : Nat)
    {start : Char}
    (unbroken : isBreak start = false)
    (text : List Char)
    (greatest : Nat) :
    ∃ last,
      blankLines? (some indentation) greatest
          (position.place (spaces indentation ++ start :: text)) =
        some ⟨[], last, (position.behind (spaces indentation)).place (start :: text)⟩ := by
  have inside : ∀ limit ∈ some indentation, position.column + indentation ≤ limit := by
    rintro limit ⟨⟩
    exact Nat.le_of_eq (by rw [starts, Nat.zero_add])
  have column : (position.behind (spaces indentation)).column = indentation := by
    rw [Position.column_behind_spaces, starts, Nat.zero_add]
  exact ⟨_, (blankLines?_spaces inside greatest _).trans
    (blankLines?_solid (.inr ⟨unbroken, congrArg some column.symm⟩) _ _)⟩

/-- Input behind the lines of block text. -/
def Leaves
    (indentation : Nat)
    (input : Input) :
    Prop :=
  ∀ next ∈ input.head?, next.column < indentation

/-- What follows literal text is left to be read, but for its margin. -/
theorem blankLines?_dedented
    {indentation : Nat}
    {following : List Char}
    (dedented : Dedented indentation following)
    {position : Position}
    (starts : position.column = 0) :
    ∃ rest,
      Leaves indentation rest ∧
      Lexer.skip false true false rest =
        Lexer.skip false true false (position.place following) ∧
      ∀ greatest, ∃ last,
        blankLines? (some indentation) greatest (position.place following) =
          some ⟨[], last, rest⟩ := by
  rcases dedented with rfl | ⟨margin, below, first, rest, rfl, opens⟩
  · exact ⟨[], (fun _ impossible => nomatch impossible), rfl, fun greatest => ⟨greatest, rfl⟩⟩
  · have inside : ∀ column ∈ some indentation, position.column + margin ≤ column := by
      rintro column ⟨⟩
      omega
    have column : (position.behind (spaces margin)).column = margin := by
      rw [Position.column_behind_spaces, starts, Nat.zero_add]
    refine ⟨(position.behind (spaces margin)).place (first :: rest), ?_, ?_, ?_⟩
    · rintro next ⟨⟩
      exact lt_of_eq_of_lt column below
    · exact (Position.skip_spaces false true margin _ position).symm
    · intro greatest
      exact
        ⟨_, (blankLines?_spaces inside greatest _).trans (blankLines?_solid (.inl opens.solid) _ _)⟩

/-! ## Lines -/

/-- A line of literal text, which does not start in the middle of one. -/
structure IsLine (line : List Char) : Prop where
  nonempty : line ≠ []
  unbroken : ∀ character ∈ line, isBreak character = false

/--
Literal text that starts with a line: the text up to its last line, the break behind that and the
breaks behind it.  A break is added behind a last line that has none.
-/
inductive LiteralBody : (body core final trailing : List Char) → Prop where
  | unended
      {line : List Char}
      (isLine : IsLine line) :
      LiteralBody line line ['\n'] []
  | ended
      {line : List Char}
      (isLine : IsLine line)
      {first : Char}
      {run : List Char}
      (breaks : ∀ character ∈ first :: run, isBreak character = true) :
      LiteralBody (line ++ first :: run) line [first] run
  | more
      {line : List Char}
      (isLine : IsLine line)
      {first : Char}
      {run : List Char}
      (breaks : ∀ character ∈ first :: run, isBreak character = true)
      {body core final trailing : List Char}
      (later : LiteralBody body core final trailing) :
      LiteralBody (line ++ (first :: run ++ body)) (line ++ (first :: run ++ core)) final trailing

/-- The break that ends literal text whose last line has none. -/
def closing (body : List Char) : List Char :=
  if body.getLast?.any isBreak then [] else ['\n']

/-- Literal text ends in front of input that does not go on with a line of it. -/
theorem blockLines?_leaves
    {indentation : Nat}
    {rest : Input}
    (leaves : Leaves indentation rest)
    (indented : Bool)
    (final trailing : List Char)
    (bound : Input) :
    blockLines? true indentation indented final trailing rest bound =
      some ⟨[], final, trailing, rest⟩ := by
  cases bound with
  | nil => rfl
  | cons _ bound =>
      cases rest with
      | nil => rfl
      | cons next rest =>
          have below := leaves next rfl
          simp [blockLines?, Nat.ne_of_lt below]

/-- One line of literal text, the break behind it and the blank lines behind that. -/
theorem blockLines?_line
    {indentation : Nat}
    {line : List Char}
    (isLine : IsLine line)
    {first : Char}
    (breaks : isBreak first = true)
    {text : List Char}
    {position : Position}
    (column : position.column = indentation)
    {blank : BlankLines}
    (read :
      blankLines? (some indentation) 0 ((position.behind (line ++ [first])).place text) =
        some blank)
    (indented : Bool)
    (final trailing : List Char)
    (next : Located)
    (bound : Input) :
    ∃ starts,
      blockLines? true indentation indented final trailing
          (position.place (line ++ first :: text)) (next :: bound) =
        (blockLines? true indentation starts [first] blank.breaks blank.rest bound).map
          fun others => { others with text := final ++ trailing ++ line ++ others.text } := by
  obtain ⟨start, line, rfl⟩ := List.exists_cons_of_ne_nil isLine.nonempty
  have inside : ∀ character ∈ start :: line, (!isBreak character) = true := fun character member =>
    by rw [isLine.unbroken character member]; rfl
  have outside : StartsOutside (fun character => !isBreak character) (first :: text) := by
    rintro character ⟨⟩
    simp only [breaks, Bool.not_true]
  have span := Position.span_place inside outside position
  refine ⟨isBlank start, ?_⟩
  rw [Position.behind_append, Position.behind_cons (position.behind _), Position.behind_nil] at read
  simp only [List.cons_append, Position.place_cons] at span ⊢
  rw [blockLines?]
  simp only [Position.locate, column, if_true] at span ⊢
  simp only [span, List.drop_one, List.tail_cons, List.take_succ_cons, List.take_zero,
    List.map_cons, List.map_nil, read, Option.bind_eq_bind, Option.bind_some, Option.map_eq_bind]
  rfl

/-- Behind a break the next line starts at the first column. -/
theorem column_behind_breaks
    (position : Position)
    {text : List Char}
    (breaks : ∀ character ∈ text, isBreak character = true)
    (nonempty : text ≠ []) :
    (position.behind text).column = 0 :=
  Position.column_behind_of_getLast (List.getLast?_eq_some_getLast nonempty)
    (breaks _ (List.getLast_mem nonempty))

/-- Breaks that follow the end of a line leave the reader at the first column. -/
theorem column_behind_run
    {position : Position}
    (starts : position.column = 0)
    {run : List Char}
    (breaks : ∀ character ∈ run, isBreak character = true) :
    (position.behind run).column = 0 := by
  by_cases empty : run = []
  · rwa [empty]
  · exact column_behind_breaks position breaks empty

section

variable (indentation : Nat) (later : List Char)

/-- No margin is written within a line. -/
theorem indentLines_isLine
    {line : List Char}
    (unbroken : ∀ character ∈ line, isBreak character = false) :
    indentLines indentation true (line ++ later) = line ++ indentLines indentation true later := by
  induction line with
  | nil => rfl
  | cons character line inductionHypothesis =>
      rw [List.cons_append, indentLines_begun _ (unbroken character List.mem_cons_self),
        inductionHypothesis fun other member => unbroken other (List.mem_cons_of_mem _ member)]
      rfl

/-- No margin is written in lines that are blank. -/
theorem indentLines_run
    {first : Char}
    {run : List Char}
    (breaks : ∀ character ∈ first :: run, isBreak character = true) :
    indentLines indentation true (first :: run ++ later) =
      first :: run ++ indentLines indentation false later := by
  rw [List.cons_append, indentLines, if_pos (breaks first List.mem_cons_self),
    indentLines_breaks fun other member => breaks other (List.mem_cons_of_mem _ member)]
  rfl

end

/-- Literal text that starts with a line starts with a character of it. -/
theorem LiteralBody.exists_start
    {body core final trailing : List Char}
    (isBody : LiteralBody body core final trailing) :
    ∃ start rest, body = start :: rest ∧ isBreak start = false := by
  have ofLine :
      ∀ {line later : List Char},
        IsLine line →
        ∃ start rest, line ++ later = start :: rest ∧ isBreak start = false := by
    intro line later isLine
    obtain ⟨start, rest, rfl⟩ := List.exists_cons_of_ne_nil isLine.nonempty
    exact ⟨start, rest ++ later, rfl, isLine.unbroken start List.mem_cons_self⟩
  cases isBody with
  | unended isLine =>
      rw [← List.append_nil body]
      exact ofLine isLine
  | ended isLine => exact ofLine isLine
  | more isLine => exact ofLine isLine

theorem LiteralBody.exists_bound
    {body core final trailing : List Char}
    (isBody : LiteralBody body core final trailing)
    {bound : Input}
    (enough : body.length ≤ bound.length) :
    ∃ next others, bound = next :: others := by
  obtain ⟨start, rest, rfl, _⟩ := isBody.exists_start
  cases bound with
  | nil => exact absurd enough (Nat.not_succ_le_zero _)
  | cons next others => exact ⟨next, others, rfl⟩

/-- What is written for literal text that starts with a line, behind the margin of that line. -/
def writtenBody
    (indentation : Nat)
    (body : List Char) :
    List Char :=
  indentLines indentation true body ++ closing body

section

variable (indentation : Nat) {line : List Char} (isLine : IsLine line)

include isLine

/-- A last line without a break is written with one. -/
theorem writtenBody_unended : writtenBody indentation line = line ++ ['\n'] := by
  have last : isBreak (line.getLast isLine.nonempty) = false :=
    isLine.unbroken _ (List.getLast_mem isLine.nonempty)
  have whole := indentLines_isLine indentation [] isLine.unbroken
  rw [List.append_nil] at whole
  rw [writtenBody, whole, closing, List.getLast?_eq_some_getLast isLine.nonempty, Option.any_some,
    last]
  simp [indentLines]

variable {first : Char} {run : List Char}
  (breaks : ∀ character ∈ first :: run, isBreak character = true)

include breaks

/-- A last line and the breaks behind it are written as they are. -/
theorem writtenBody_ended :
    writtenBody indentation (line ++ first :: run) = line ++ first :: run := by
  have whole := indentLines_run indentation [] breaks
  rw [List.append_nil] at whole
  have ended : (line ++ first :: run).getLast?.any isBreak = true := by
    rw [List.getLast?_append, List.getLast?_eq_some_getLast (List.cons_ne_nil first run)]
    exact breaks _ (List.getLast_mem _)
  rw [writtenBody, indentLines_isLine indentation _ isLine.unbroken, whole, closing, if_pos ended]
  simp [indentLines]

/-- The next line is indented behind the breaks in front of it. -/
theorem writtenBody_more
    {body : List Char}
    (starts : ∃ start rest, body = start :: rest ∧ isBreak start = false) :
    writtenBody indentation (line ++ (first :: run ++ body)) =
      line ++ (first :: run ++ (spaces indentation ++ writtenBody indentation body)) := by
  obtain ⟨start, others, same, unbroken⟩ := starts
  have sameEnd : closing (line ++ (first :: run ++ body)) = closing body := by
    rw [closing, closing, ← List.append_assoc, List.getLast?_append,
      Option.or_of_isSome (by simp [same])]
  have margin :
      indentLines indentation false body =
        spaces indentation ++ indentLines indentation true body := by
    rw [same]
    exact indentLines_line indentation unbroken others
  rw [writtenBody, writtenBody, sameEnd, indentLines_isLine indentation _ isLine.unbroken,
    indentLines_run indentation _ breaks, margin]
  simp only [List.append_assoc]

end

theorem Position.behind_concat
    (position : Position)
    (line : List Char)
    (first : Char)
    (run : List Char) :
    (position.behind (line ++ [first])).behind run = position.behind (line ++ first :: run) := by
  simp only [Position.behind_append, Position.behind_cons, Position.behind_nil]

/-- All lines of literal text, from the first character of the first of them. -/
theorem blockLines?_body
    {indentation : Nat}
    {body core final trailing : List Char}
    (isBody : LiteralBody body core final trailing)
    {following : List Char}
    (dedented : Dedented indentation following)
    {position : Position}
    (column : position.column = indentation)
    (indented : Bool)
    (before blank : List Char)
    {bound : Input}
    (enough : body.length ≤ bound.length) :
    ∃ rest,
      Lexer.skip false true false rest =
        Lexer.skip false true false
          ((position.behind (writtenBody indentation body)).place following) ∧
      blockLines? true indentation indented before blank
          (position.place (writtenBody indentation body ++ following)) bound =
        some ⟨before ++ blank ++ core, final, trailing, rest⟩ := by
  obtain ⟨next, bound, rfl⟩ := isBody.exists_bound enough
  induction isBody generalizing position indented before blank next bound with
  | @unended line isLine =>
      have starts : (position.behind (line ++ ['\n'])).column = 0 := by
        rw [Position.behind_append]
        rfl
      obtain ⟨rest, leaves, skipped, read⟩ := blankLines?_dedented dedented starts
      obtain ⟨last, read⟩ := read 0
      obtain ⟨starts, lineRead⟩ :=
        blockLines?_line isLine rfl column read indented before blank next bound
      rw [writtenBody_unended indentation isLine]
      refine ⟨rest, skipped, ?_⟩
      rw [List.append_assoc, List.singleton_append, lineRead, blockLines?_leaves leaves]
      simp only [Option.map_some, List.append_nil]
  | @ended line isLine first run breaks =>
      have starts : (position.behind (line ++ first :: run)).column = 0 := by
        rw [Position.behind_append]
        exact column_behind_breaks _ breaks (List.cons_ne_nil _ _)
      obtain ⟨rest, leaves, skipped, readFollowing⟩ := blankLines?_dedented dedented starts
      rw [← Position.behind_concat] at readFollowing
      obtain ⟨last, read⟩ :=
        blankLines?_breaks (fun other member => breaks other (List.mem_cons_of_mem _ member))
          readFollowing 0
      obtain ⟨starts, lineRead⟩ :=
        blockLines?_line isLine (breaks first List.mem_cons_self) column read indented before blank
          next bound
      rw [writtenBody_ended indentation isLine breaks]
      refine ⟨rest, skipped, ?_⟩
      rw [List.append_assoc, List.cons_append, lineRead, blockLines?_leaves leaves]
      simp only [Option.map_some, List.append_nil]
  | @more line isLine first run breaks body core final trailing later inductionHypothesis =>
      have enoughLater : body.length ≤ bound.length := by
        have length := List.length_pos_iff.mpr isLine.nonempty
        simp only [List.length_append, List.length_cons] at enough
        omega
      obtain ⟨second, bound, rfl⟩ := later.exists_bound enoughLater
      have starts : (position.behind (line ++ first :: run)).column = 0 := by
        rw [Position.behind_append]
        exact column_behind_breaks _ breaks (List.cons_ne_nil _ _)
      have columnLater :
          ((position.behind (line ++ first :: run)).behind (spaces indentation)).column =
            indentation := by
        rw [Position.column_behind_spaces, starts, Nat.zero_add]
      obtain ⟨start, others, same, unbroken⟩ := later.exists_start
      obtain ⟨text, opens⟩ :
          ∃ text, writtenBody indentation body ++ following = start :: text := by
        rw [writtenBody, same, indentLines_begun indentation unbroken]
        exact ⟨_, rfl⟩
      have readMargin := blankLines?_margin starts indentation unbroken text
      rw [← Position.behind_concat] at readMargin
      obtain ⟨last, read⟩ :=
        blankLines?_breaks (fun other member => breaks other (List.mem_cons_of_mem _ member))
          readMargin 0
      obtain ⟨blankStart, lineRead⟩ :=
        blockLines?_line isLine (breaks first List.mem_cons_self) column read indented before blank
          next (second :: bound)
      rw [← Position.behind_concat] at columnLater
      obtain ⟨rest, skipped, readLater⟩ :=
        inductionHypothesis columnLater blankStart [first] run second bound enoughLater
      rw [writtenBody_more indentation isLine breaks ⟨start, others, same, unbroken⟩]
      refine ⟨rest, ?_, ?_⟩
      · rw [skipped]
        simp only [Position.behind_append, Position.behind_cons, Position.behind_nil]
      · simp only [List.append_assoc, List.cons_append] at lineRead readLater ⊢
        rw [opens] at readLater ⊢
        rw [lineRead, readLater]
        simp only [Option.map_some, List.nil_append]

/-! ## Whole texts -/

theorem LiteralBody.cons
    {character : Char}
    (unbroken : isBreak character = false)
    {body core final trailing : List Char}
    (isBody : LiteralBody body core final trailing) :
    LiteralBody (character :: body) (character :: core) final trailing := by
  have extended : ∀ {line : List Char}, IsLine line → IsLine (character :: line) := by
    intro line isLine
    refine ⟨List.cons_ne_nil _ _, ?_⟩
    intro other member
    rcases List.mem_cons.mp member with rfl | later
    · exact unbroken
    · exact isLine.unbroken other later
  cases isBody with
  | unended isLine => exact .unended (extended isLine)
  | ended isLine breaks => exact .ended (extended isLine) breaks
  | more isLine breaks later => exact .more (extended isLine) breaks later

/-- A text consists of line breaks and the lines behind them, if there are any. -/
theorem exists_literalBody
    (text : List Char) :
    ∃ run body,
      text = run ++ body ∧
      (∀ character ∈ run, isBreak character = true) ∧
      (body = [] ∨ ∃ core final trailing, LiteralBody body core final trailing) := by
  induction text with
  | nil => exact ⟨[], [], rfl, (fun _ impossible => nomatch impossible), .inl rfl⟩
  | cons character rest inductionHypothesis =>
      obtain ⟨run, body, rfl, breaks, lines⟩ := inductionHypothesis
      cases breaksFirst : isBreak character with
      | true =>
          refine ⟨character :: run, body, rfl, ?_, lines⟩
          intro other member
          rcases List.mem_cons.mp member with rfl | later
          · exact breaksFirst
          · exact breaks other later
      | false =>
          have single : IsLine [character] := by
            refine ⟨List.cons_ne_nil _ _, ?_⟩
            intro other member
            rwa [List.mem_singleton.mp member]
          refine ⟨[], character :: (run ++ body), rfl, (fun _ impossible => nomatch impossible),
            .inr ?_⟩
          cases run with
          | nil =>
              rcases lines with rfl | ⟨core, final, trailing, isBody⟩
              · exact ⟨_, _, _, .unended single⟩
              · exact ⟨_, _, _, isBody.cons breaksFirst⟩
          | cons first run =>
              rcases lines with rfl | ⟨core, final, trailing, isBody⟩
              · rw [List.append_nil]
                exact ⟨_, _, _, .ended single breaks⟩
              · exact ⟨_, _, _, .more single breaks isBody⟩

/-- Whether a text starts as nothing but its header can show. -/
def startsIndented : List Char → Bool
  | [] => false
  | first :: _ => first == ' ' || isBreak first

/-- What the header says about the breaks at the end of a text. -/
def chompingOf (text : List Char) : Chomping :=
  match text.reverse with
  | [] => .strip
  | [last] => if isBreak last then .keep else .strip
  | last :: previous :: _ =>
      if !isBreak last then .strip
      else if isBreak previous then .keep
      else .clip

/-- The header tells what the text does not show itself. -/
theorem literalHints_eq
    (text : List Char) :
    literalHints text = hints (startsIndented text) (chompingOf text) := by
  have indentation :
      (match text with
        | [] => []
        | first :: _ => if first == ' ' || isBreak first then ['2'] else []) =
        if startsIndented text then ['2'] else [] := by
    cases text <;> rfl
  have chomping :
      (match text.reverse with
        | [] => ['-']
        | [last] => if isBreak last then ['+'] else ['-']
        | last :: previous :: _ =>
            if !isBreak last then ['-']
            else if isBreak previous then ['+']
            else []) =
        match chompingOf text with
        | .strip => ['-']
        | .clip => []
        | .keep => ['+'] := by
    rw [chompingOf]
    split
    · rfl
    · split <;> rfl
    · split
      · rfl
      · split <;> rfl
  have joined : ∀ {a b c d : List Char}, a = b → c = d → a ++ c = b ++ d := by
    rintro _ _ _ _ rfl rfl
    rfl
  exact joined indentation chomping

/-- What is left of the end of a text. -/
def chomped
    (chomping : Chomping)
    (core final trailing : List Char) :
    List Char :=
  match chomping with
  | .strip => core
  | .clip => core ++ final
  | .keep => core ++ final ++ trailing

theorem exists_concat
    {text : List Char}
    (nonempty : text ≠ []) :
    ∃ front last, text = front ++ [last] :=
  ⟨_, _, (List.dropLast_concat_getLast nonempty).symm⟩

/-- Text that does not end with a break has nothing behind its last line. -/
theorem chompingOf_unbroken
    (front : List Char)
    {last : Char}
    (unbroken : isBreak last = false) :
    chompingOf (front ++ [last]) = .strip := by
  rw [chompingOf, List.reverse_concat]
  cases front.reverse with
  | nil => simp [unbroken]
  | cons previous others => simp [unbroken]

/-- Text that ends with one break has it clipped. -/
theorem chompingOf_single
    (front : List Char)
    {previous last : Char}
    (unbroken : isBreak previous = false)
    (breaks : isBreak last = true) :
    chompingOf (front ++ [previous] ++ [last]) = .clip := by
  rw [chompingOf, List.reverse_concat, List.reverse_concat]
  simp [unbroken, breaks]

/-- Text that ends with several breaks, or is made of breaks, keeps them. -/
theorem chompingOf_several
    (front : List Char)
    {first : Char}
    {run : List Char}
    (breaks : ∀ character ∈ first :: run, isBreak character = true)
    (several : run ≠ [] ∨ front = []) :
    chompingOf (front ++ first :: run) = .keep := by
  by_cases empty : run = []
  · subst empty
    have alone : front = [] := by
      simpa using several
    subst alone
    simp [chompingOf, breaks first List.mem_cons_self]
  · obtain ⟨others, last, rfl⟩ := exists_concat empty
    obtain ⟨earlier, previous, same⟩ := exists_concat (List.cons_ne_nil first others)
    have divided :
        front ++ first :: (others ++ [last]) = front ++ earlier ++ [previous] ++ [last] := by
      rw [← List.cons_append, same]
      simp only [List.append_assoc]
    have breaksLast : isBreak last = true :=
      breaks last (by simp)
    have breaksPrevious : isBreak previous = true := by
      refine breaks previous ?_
      rw [← List.cons_append, same]
      simp
    rw [divided, chompingOf, List.reverse_concat, List.reverse_concat]
    simp [breaksLast, breaksPrevious]

/-- What the header says about the end of a text gives back the text. -/
theorem LiteralBody.chomped_eq
    {body core final trailing : List Char}
    (isBody : LiteralBody body core final trailing)
    (run : List Char) :
    chomped (chompingOf (run ++ body)) (run ++ core) final trailing = run ++ body := by
  have exists_last :
      ∀ {line : List Char},
        IsLine line → ∃ front last, line = front ++ [last] ∧ isBreak last = false := by
    intro line isLine
    obtain ⟨front, last, same⟩ := exists_concat isLine.nonempty
    exact ⟨front, last, same, isLine.unbroken last (by simp [same])⟩
  induction isBody generalizing run with
  | unended isLine =>
      obtain ⟨front, last, rfl, unbroken⟩ := exists_last isLine
      rw [← List.append_assoc, chompingOf_unbroken _ unbroken]
      rfl
  | @ended line isLine first others breaks =>
      obtain ⟨front, last, rfl, unbroken⟩ := exists_last isLine
      cases others with
      | nil =>
          have divided :
              run ++ (front ++ [last] ++ [first]) = run ++ front ++ [last] ++ [first] := by
            simp only [List.append_assoc]
          rw [divided, chompingOf_single _ unbroken (breaks first List.mem_cons_self)]
          simp only [chomped, List.append_assoc]
      | cons second others =>
          rw [← List.append_assoc, chompingOf_several _ breaks (.inl (List.cons_ne_nil _ _))]
          simp only [chomped, List.append_assoc, List.cons_append, List.nil_append]
  | @more line isLine first others breaks body core final trailing later inductionHypothesis =>
      have remaining := inductionHypothesis (run ++ (line ++ first :: others))
      simpa only [List.append_assoc, List.cons_append] using remaining

/-- Literal text is what its header says of its lines, once these are read. -/
theorem blockText?_hints
    {indented : Bool}
    {parent : Nat}
    {position : Position}
    {chomping : Chomping}
    {text : List Char}
    {blank : BlankLines}
    {lines : BlockLines}
    (readBlank :
      blankLines? (if indented then some (parent + 2) else none) 0
          ((position.behind (hints indented chomping ++ ['\n'])).place text) =
        some blank)
    (column : indented = true ∨ blank.greatest = parent + 2)
    (readLines :
      blockLines? true (parent + 2) false [] blank.breaks blank.rest blank.rest = some lines) :
    blockText? true parent (position.place (hints indented chomping ++ '\n' :: text)) =
      some (chomped chomping lines.text lines.final lines.trailing, lines.rest) := by
  have given :
      (if indented then some 2 else none).map
          (fun increment => (max (parent : Int) 0).toNat + increment) =
        if indented then some (parent + 2) else none := by
    cases indented with
    | true => simp
    | false => rfl
  have found :
      (if indented then some (parent + 2) else none).getD
          (max (max blank.greatest ((parent : Int) + 1).toNat) 1) =
        parent + 2 := by
    rcases column with rfl | greatest
    · rfl
    · cases indented with
      | true => rfl
      | false =>
          change max (max blank.greatest ((parent : Int) + 1).toNat) 1 = parent + 2
          omega
  have behindHeader :
      position.behind (hints indented chomping ++ ['\n']) =
        (position.behind (hints indented chomping)).after '\n' := by
    rw [Position.behind_append]
    rfl
  rw [behindHeader] at readBlank
  simp only [blockText?, blockHeader?_hints, endOfLine?_break, given, readBlank, found, readLines,
    Option.bind_eq_bind, Option.bind_some]
  cases chomping <;> rfl

theorem length_indentLines_ge
    (indentation : Nat)
    (begun : Bool)
    (text : List Char) :
    text.length ≤ (indentLines indentation begun text).length := by
  induction text generalizing begun with
  | nil => exact Nat.le_refl 0
  | cons character text inductionHypothesis =>
      rw [indentLines]
      split
      · exact Nat.succ_le_succ (inductionHypothesis _)
      · split
        · exact Nat.succ_le_succ (inductionHypothesis _)
        · rw [List.length_append]
          exact Nat.le_add_left_of_le (Nat.succ_le_succ (inductionHypothesis _))

/-- The blank lines in front of literal text, and the margin of its first line. -/
theorem blankLines?_start
    {run : List Char}
    (breaks : ∀ character ∈ run, isBreak character = true)
    {start : Char}
    (printable : isPrintable start = true)
    (unbroken : isBreak start = false)
    {position : Position}
    (starts : position.column = 0)
    (indentation : Nat)
    (others text : List Char) :
    ∃ greatest,
      (startsIndented (run ++ start :: others) = true ∨ greatest = indentation) ∧
      blankLines? (if startsIndented (run ++ start :: others) then some indentation else none) 0
          (position.place (run ++ (spaces indentation ++ start :: text))) =
        some
          ⟨run, greatest, (position.behind (run ++ spaces indentation)).place (start :: text)⟩ := by
  rw [Position.behind_append]
  cases indented : startsIndented (run ++ start :: others) with
  | true =>
      have startsBehind := column_behind_run starts breaks
      obtain ⟨last, read⟩ :=
        blankLines?_breaks breaks (blankLines?_margin startsBehind indentation unbroken text) 0
      exact ⟨last, .inl rfl, read⟩
  | false =>
      -- Without a hint no break and no space stands in front.
      cases run with
      | cons first run =>
          have breaksFirst := breaks first List.mem_cons_self
          rw [List.cons_append, startsIndented, breaksFirst, Bool.or_true] at indented
          cases indented
      | nil =>
          have solid : isSpace start = false := by
            rw [isSpace, unbroken, Bool.or_false, Bool.eq_false_iff]
            intro blank
            obtain rfl := eq_space_of_isBlank printable blank
            cases indented
          have inside : ∀ limit ∈ (none : Option Nat), position.column + indentation ≤ limit :=
            fun limit impossible => absurd impossible (Option.not_mem_none limit)
          refine ⟨max 0 (position.behind (spaces indentation)).column, .inr ?_, ?_⟩
          · rw [Nat.zero_max, Position.column_behind_spaces, starts, Nat.zero_add]
          · exact (blankLines?_spaces inside 0 _).trans (blankLines?_solid (.inl solid) _ _)

section

variable {parent : Nat} {following : List Char} (dedented : Dedented (parent + 2) following)
  {run : List Char} (breaks : ∀ character ∈ run, isBreak character = true)
  (position : Position)

include dedented breaks

/-- Literal text that consists of line breaks. -/
theorem blockText?_breaks
    (nonempty : run ≠ []) :
    ∃ rest,
      Lexer.skip false true false rest =
        Lexer.skip false true false
          ((position.behind (hints true .keep ++ '\n' :: run)).place following) ∧
      blockText? true parent (position.place (hints true .keep ++ '\n' :: (run ++ following))) =
        some (run, rest) := by
  have starts :=
    column_behind_breaks (position.behind (hints true .keep ++ ['\n'])) breaks nonempty
  obtain ⟨rest, leaves, skipped, readFollowing⟩ := blankLines?_dedented dedented starts
  obtain ⟨last, readBlank⟩ := blankLines?_breaks breaks readFollowing 0
  have readGiven :
      blankLines? (if true then some (parent + 2) else none) 0
          ((position.behind (hints true .keep ++ ['\n'])).place (run ++ following)) =
        some ⟨run, last, rest⟩ :=
    readBlank
  refine ⟨rest, ?_, ?_⟩
  · rw [skipped, Position.behind_concat]
  · exact blockText?_hints readGiven (.inl rfl) (blockLines?_leaves leaves false [] run rest)

/-- Literal text that has lines. -/
theorem blockText?_lines
    {body core final trailing : List Char}
    (printable : ∀ character ∈ body, isPrintable character = true)
    (isBody : LiteralBody body core final trailing) :
    ∃ rest,
      Lexer.skip false true false rest =
        Lexer.skip false true false
          ((position.behind
              (literalHints (run ++ body)
                ++ '\n' :: (run ++ (spaces (parent + 2) ++ writtenBody (parent + 2) body)))).place
            following) ∧
      blockText? true parent
          (position.place
            (literalHints (run ++ body)
              ++ '\n' :: (run
                ++ (spaces (parent + 2) ++ (writtenBody (parent + 2) body ++ following))))) =
        some (run ++ body, rest) := by
  rw [literalHints_eq]
  have starts :
      (position.behind
        (hints (startsIndented (run ++ body)) (chompingOf (run ++ body)) ++ ['\n'])).column =
          0 := by
    rw [Position.behind_append]
    rfl
  obtain ⟨start, others, same, unbroken⟩ := isBody.exists_start
  have opens :
      writtenBody (parent + 2) body ++ following =
        start :: (indentLines (parent + 2) true others ++ closing body ++ following) := by
    rw [writtenBody, same, indentLines_begun _ unbroken]
    rfl
  have printableStart : isPrintable start = true :=
    printable start (by simp [same])
  obtain ⟨greatest, column, readBlank⟩ :=
    blankLines?_start breaks printableStart unbroken starts (parent + 2) others
      (indentLines (parent + 2) true others ++ closing body ++ following)
  rw [← same, ← opens] at readBlank
  rw [← same] at column
  have columnLine :
      ((position.behind
          (hints (startsIndented (run ++ body)) (chompingOf (run ++ body)) ++ ['\n'])).behind
        (run ++ spaces (parent + 2))).column = parent + 2 := by
    rw [Position.behind_append, Position.column_behind_spaces, column_behind_run starts breaks,
      Nat.zero_add]
  have enough :
      ∀ place : Position,
        body.length ≤ (place.place (writtenBody (parent + 2) body ++ following)).length := by
    intro place
    rw [Position.length_place, writtenBody, List.append_assoc, List.length_append]
    exact Nat.le_add_right_of_le (length_indentLines_ge _ _ _)
  obtain ⟨rest, skipped, readLines⟩ :=
    blockLines?_body isBody dedented columnLine false [] run (enough _)
  have read := blockText?_hints readBlank column readLines
  rw [List.nil_append, isBody.chomped_eq] at read
  refine ⟨rest, ?_, read⟩
  rw [skipped]
  simp only [Position.behind_append, Position.behind_cons, Position.behind_nil]

end

/-- Literal text behind its indicator, one level deeper than its parent. -/
theorem blockText?_literal
    {text : List Char}
    (nonempty : text ≠ [])
    (printable : ∀ character ∈ text, isPrintable character = true)
    {parent : Nat}
    {following : List Char}
    (dedented : Dedented (parent + 2) following)
    (position : Position) :
    ∃ rest,
      Lexer.skip false true false rest =
        Lexer.skip false true false
          ((position.behind
              (literalHints text ++ '\n' :: indentLines (parent + 2) false text
                ++ closing text)).place following) ∧
      blockText? true parent
          (position.place
            (literalHints text ++ '\n' :: indentLines (parent + 2) false text ++ closing text
              ++ following)) =
        some (text, rest) := by
  obtain ⟨run, body, rfl, breaks, lines⟩ := exists_literalBody text
  rcases lines with rfl | ⟨core, final, trailing, isBody⟩
  · rw [List.append_nil] at nonempty ⊢
    obtain ⟨first, others, rfl⟩ := List.exists_cons_of_ne_nil nonempty
    have indented : startsIndented (first :: others) = true := by
      rw [startsIndented, breaks first List.mem_cons_self, Bool.or_true]
    have keeps : chompingOf (first :: others) = .keep :=
      chompingOf_several [] breaks (.inr rfl)
    have written : indentLines (parent + 2) false (first :: others) = first :: others := by
      have whole := indentLines_breaks breaks (parent + 2) []
      rwa [indentLines, List.append_nil] at whole
    have unclosed : closing (first :: others) = [] := by
      rw [closing, List.getLast?_eq_some_getLast (List.cons_ne_nil _ _), Option.any_some,
        if_pos (breaks _ (List.getLast_mem _))]
    rw [literalHints_eq, indented, keeps, written, unclosed, List.append_nil]
    simpa only [List.append_assoc, List.cons_append] using
      blockText?_breaks dedented breaks position (List.cons_ne_nil _ _)
  · obtain ⟨start, rest, same, unbroken⟩ := isBody.exists_start
    have sameEnd : closing (run ++ body) = closing body := by
      rw [closing, closing, List.getLast?_append, Option.or_of_isSome (by simp [same])]
    have written :
        indentLines (parent + 2) false (run ++ body) ++ closing (run ++ body) =
          run ++ (spaces (parent + 2) ++ writtenBody (parent + 2) body) := by
      rw [sameEnd, indentLines_breaks breaks, writtenBody, same, indentLines_line _ unbroken]
      simp only [List.append_assoc]
    have read :=
      blockText?_lines dedented breaks position
        (fun character inBody => printable character (List.mem_append_right run inBody)) isBody
    rw [List.append_assoc, List.cons_append, written]
    simpa only [List.append_assoc, List.cons_append] using read

end Yaml

end DroneSession
