import DroneSession.Yaml.Lexer
import DroneSession.Yaml.Written

namespace DroneSession

/-!
# Positions in written documents

Only printable characters are written.  No two of them become one when they are located, so the
place of every character follows from the text in front of it.
-/

namespace Yaml

/-! ## Characters -/

/-- What is checked of the characters of a text one by one holds of all of them. -/
theorem forall_mem_of_all
    {holds : Char → Prop}
    [DecidablePred holds]
    {text : List Char}
    (all : (text.all fun character => decide (holds character)) = true) :
    ∀ character ∈ text, holds character := by
  simpa using all

/-- What is no space is no line break. -/
theorem not_isBreak_of_not_isSpace
    {character : Char}
    (solid : isSpace character = false) :
    isBreak character = false := by
  simp only [isSpace, Bool.or_eq_false_iff] at solid
  exact solid.2

/-- What is no space is no blank. -/
theorem not_isBlank_of_not_isSpace
    {character : Char}
    (solid : isSpace character = false) :
    isBlank character = false := by
  simp only [isSpace, Bool.or_eq_false_iff] at solid
  exact solid.1

/-- What can be printed can be read. -/
theorem isReadable_of_isPrintable
    {character : Char}
    (printable : isPrintable character = true) :
    isReadable character = true := by
  simp only [isPrintable, isReadable, Bool.or_eq_true, Bool.and_eq_true, beq_iff_eq,
    decide_eq_true_eq, bne_iff_ne] at printable ⊢
  omega

/-- The only printable characters that separate words are the space and the line breaks. -/
theorem eq_space_of_isBlank
    {character : Char}
    (printable : isPrintable character = true)
    (blank : isBlank character = true) :
    character = ' ' := by
  simp only [isBlank, Bool.or_eq_true, beq_iff_eq] at blank
  rcases blank with rfl | rfl
  · rfl
  · exact absurd printable (by decide)

/-- A character that neither separates nor starts a comment, nor is a byte order mark. -/
structure Opens (character : Char) : Prop where
  solid : isSpace character = false
  noComment : character ≠ '#'
  noMark : character ≠ '\ufeff'

/-! ## Positions -/

/-- The number of octets that encode a text. -/
def encodedLength : (text : List Char) → Nat
  | [] => 0
  | character :: text => character.utf8Size + encodedLength text

/-- A place between two characters of a document. -/
structure Position where
  /-- The number of octets before it. -/
  index : Nat
  line : Nat
  column : Nat

namespace Position

/-- The place in front of a document. -/
def origin : Position :=
  ⟨0, 0, 0⟩

/-- The place behind a character, which starts a new line if it is a break. -/
def after
    (position : Position)
    (character : Char) :
    Position :=
  let next := position.index + character.utf8Size
  if isBreak character then ⟨next, position.line + 1, 0⟩
  else ⟨next, position.line, position.column + 1⟩

/-- The place behind a text. -/
def behind
    (position : Position)
    (text : List Char) :
    Position :=
  text.foldl after position

/-- A character with the place it stands at. -/
def locate
    (position : Position)
    (character : Char) :
    Located where
  character := character
  index := position.index
  line := position.line
  column := position.column

/-- The characters of a text that starts at a position. -/
def place
    (position : Position) :
    (text : List Char) → Input
  | [] => []
  | character :: text => position.locate character :: (position.after character).place text

section

variable (position : Position) (character : Char) (text later : List Char)

@[simp] theorem behind_nil : position.behind [] = position :=
  rfl

@[simp] theorem behind_cons :
    position.behind (character :: text) = (position.after character).behind text :=
  rfl

@[simp] theorem behind_append :
    position.behind (text ++ later) = (position.behind text).behind later :=
  List.foldl_append

@[simp] theorem place_nil : position.place [] = [] :=
  rfl

@[simp] theorem place_cons :
    position.place (character :: text) =
      position.locate character :: (position.after character).place text :=
  rfl

@[simp] theorem length_place : (position.place text).length = text.length := by
  induction text generalizing position with
  | nil => rfl
  | cons character text inductionHypothesis =>
      simp only [place_cons, List.length_cons, inductionHypothesis]

/-- A text goes on where its front ends. -/
theorem place_append :
    position.place (text ++ later) =
      position.place text ++ (position.behind text).place later := by
  induction text generalizing position with
  | nil => rfl
  | cons character text inductionHypothesis =>
      simp only [List.cons_append, place_cons, behind_cons, inductionHypothesis]

/-- Places do not change the characters of a text. -/
theorem map_character_place : (position.place text).map Located.character = text := by
  induction text generalizing position with
  | nil => rfl
  | cons character text inductionHypothesis =>
      simp only [place_cons, List.map_cons, inductionHypothesis, locate]

/-- Looking ahead sees the character at a distance. -/
@[simp] theorem peek?_place
    (distance : Nat) :
    Input.peek? (position.place text) distance = text[distance]? := by
  rw [Input.peek?, ← List.getElem?_map, map_character_place]

/-- Whether a separator comes next does not depend on the place. -/
theorem separates_place :
    Input.separates (position.place text) 0 = Writable.separates text := by
  cases text <;> rfl

end

section

variable {position : Position} {text : List Char}

/-- Characters behind one another have the places that their document gives them. -/
theorem locateFrom_eq_place
    (printable : ∀ character ∈ text, isPrintable character = true) :
    locateFrom position.index position.line position.column text = position.place text := by
  induction text generalizing position with
  | nil => rfl
  | cons character text inductionHypothesis =>
      have here := printable character List.mem_cons_self
      have noReturn : character ≠ '\r' := by
        rintro rfl
        exact absurd here (by decide)
      have noNext : character ≠ '\x85' := by
        rintro rfl
        exact absurd here (by decide)
      have later :
          locateFrom (position.after character).index (position.after character).line
              (position.after character).column text =
            (position.after character).place text :=
        inductionHypothesis fun other member => printable other (List.mem_cons_of_mem _ member)
      rw [locateFrom.eq_3 _ _ _ _ _ fun _ equal _ => noReturn equal, place_cons, ← later]
      simp only [noReturn, noNext, or_self, if_false, after, locate]
      split <;> rfl

/-- Printable text is located as it is placed from the origin. -/
theorem locate_eq_place
    (printable : ∀ character ∈ text, isPrintable character = true) :
    Yaml.locate text = origin.place text := by
  change locateFrom origin.index origin.line origin.column text = origin.place text
  exact locateFrom_eq_place printable

/-- A character that is no break moves by one column. -/
theorem column_after
    {character : Char}
    (unbroken : isBreak character = false) :
    (position.after character).column = position.column + 1 := by
  simp only [after, unbroken, Bool.false_eq_true, if_false]

theorem line_after
    {character : Char}
    (unbroken : isBreak character = false) :
    (position.after character).line = position.line := by
  simp only [after, unbroken, Bool.false_eq_true, if_false]

/-- Text without breaks moves by as many columns as it has characters. -/
theorem column_behind
    (unbroken : ∀ character ∈ text, isBreak character = false) :
    (position.behind text).column = position.column + text.length := by
  induction text generalizing position with
  | nil => rfl
  | cons character text inductionHypothesis =>
      rw [behind_cons,
        inductionHypothesis fun other member => unbroken other (List.mem_cons_of_mem _ member),
        column_after (unbroken character List.mem_cons_self), List.length_cons]
      omega

/-- Text without breaks stays in its line. -/
theorem line_behind
    (unbroken : ∀ character ∈ text, isBreak character = false) :
    (position.behind text).line = position.line := by
  induction text generalizing position with
  | nil => rfl
  | cons character text inductionHypothesis =>
      rw [behind_cons,
        inductionHypothesis fun other member => unbroken other (List.mem_cons_of_mem _ member),
        line_after (unbroken character List.mem_cons_self)]

/-- A text moves the index by the octets that encode it. -/
theorem index_behind :
    (position.behind text).index = position.index + encodedLength text := by
  induction text generalizing position with
  | nil => rfl
  | cons character text inductionHypothesis =>
      have here : (position.after character).index = position.index + character.utf8Size := by
        simp only [after]
        split <;> rfl
      rw [behind_cons, inductionHypothesis, here, encodedLength, Nat.add_assoc]

/-- Behind a text that ends a line a new line starts. -/
theorem column_behind_of_getLast
    {final : Char}
    (ended : text.getLast? = some final)
    (breaks : isBreak final = true) :
    (position.behind text).column = 0 := by
  obtain ⟨front, rfl⟩ := List.getLast?_eq_some_iff.mp ended
  rw [behind_append, behind_cons, behind_nil, after]
  simp only [breaks, if_true]

/-- Spaces are no line breaks. -/
theorem isBreak_of_mem_spaces
    {count : Nat}
    {character : Char}
    (member : character ∈ spaces count) :
    isBreak character = false := by
  rw [List.eq_of_mem_replicate member]
  rfl

theorem column_behind_spaces
    (count : Nat) :
    (position.behind (spaces count)).column = position.column + count := by
  rw [column_behind fun _ => isBreak_of_mem_spaces, spaces, List.length_replicate]

end

/-! ## Runs of characters -/

/-- A text whose first character, if there is one, is not of a class. -/
def StartsOutside
    (belongs : Char → Bool)
    (text : List Char) :
    Prop :=
  ∀ character ∈ text.head?, belongs character = false

/-- What is left of a text when a class was dropped starts outside of the class. -/
theorem startsOutside_dropWhile
    (belongs : Char → Bool)
    (text : List Char) :
    StartsOutside belongs (text.dropWhile belongs) := by
  intro character first
  have nonempty : text.dropWhile belongs ≠ [] := by
    rintro empty
    rw [empty] at first
    cases first
  have outside := List.head_dropWhile_not belongs nonempty
  rw [List.head?_eq_some_head nonempty] at first
  cases first
  exact outside

/-- A run of a class is read as a whole, up to what lies outside of the class. -/
theorem span_place
    {belongs : Char → Bool}
    {run rest : List Char}
    (inside : ∀ character ∈ run, belongs character = true)
    (outside : StartsOutside belongs rest)
    (position : Position) :
    Input.span (position.place (run ++ rest)) belongs =
      (run, (position.behind run).place rest) := by
  induction run generalizing position with
  | nil =>
      cases rest with
      | nil => rfl
      | cons character rest =>
          have first : belongs character = false :=
            outside character rfl
          simp [Input.span, locate, first]
  | cons character run inductionHypothesis =>
      have here := inside character List.mem_cons_self
      have later := inductionHypothesis
        (fun other member => inside other (List.mem_cons_of_mem _ member))
        (position.after character)
      simp only [Input.span, Prod.mk.injEq] at later
      simp [Input.span, locate, here, later.1, later.2]

/-! ## Separators in front of a token -/

/-- Spaces in front of a token are skipped. -/
theorem skip_spaces
    (flow allowed : Bool)
    (count : Nat)
    (text : List Char)
    (position : Position) :
    Lexer.skip flow allowed false (position.place (spaces count ++ text)) =
      Lexer.skip flow allowed false ((position.behind (spaces count)).place text) := by
  induction count generalizing position with
  | zero => rfl
  | succ count inductionHypothesis =>
      rw [spaces, List.replicate_succ, List.cons_append, place_cons, Lexer.skip]
      exact inductionHypothesis _

/-- A line break in front of a token is skipped, and a key may stand behind it. -/
theorem skip_break
    {character : Char}
    (breaks : isBreak character = true)
    (allowed : Bool)
    (text : List Char)
    (position : Position) :
    Lexer.skip false allowed false (position.place (character :: text)) =
      Lexer.skip false true false ((position.after character).place text) := by
  rw [place_cons, Lexer.skip]
  simp only [locate, breaks, if_true, Bool.not_false, Bool.or_true]

/-- Nothing is skipped in front of the start of a token. -/
theorem skip_of_opens
    {character : Char}
    (opens : Opens character)
    (flow allowed : Bool)
    (text : List Char)
    (position : Position) :
    Lexer.skip flow allowed false (position.place (character :: text)) =
      (allowed, position.place (character :: text)) := by
  have unbroken := not_isBreak_of_not_isSpace opens.solid
  have unblank := not_isBlank_of_not_isSpace opens.solid
  simp only [isBlank, Bool.or_eq_false_iff, beq_eq_false_iff_ne] at unblank
  rw [place_cons, Lexer.skip]
  simp [locate, unbroken, opens.noComment, opens.noMark, unblank.1, unblank.2]

theorem length_skip_le
    (flow allowed comment : Bool)
    (input : Input) :
    (Lexer.skip flow allowed comment input).2.length ≤ input.length := by
  fun_induction Lexer.skip flow allowed comment input with
  | case1 => exact Nat.le_refl 0
  | case2 _ _ _ _ _ _ inductionHypothesis => exact Nat.le_succ_of_le inductionHypothesis
  | case3 _ _ _ _ _ _ _ inductionHypothesis => exact Nat.le_succ_of_le inductionHypothesis
  | case4 => exact Nat.le_refl _

end Position

/--
A text that continues a document with a line that is not as far indented as a column, or that ends
it.
-/
def Dedented
    (indentation : Nat)
    (text : List Char) :
    Prop :=
  text = [] ∨
    ∃ margin < indentation, ∃ first rest,
      text = spaces margin ++ first :: rest ∧ Opens first

/-- A line that is not indented as far as one column is not indented as far as any behind it. -/
theorem Dedented.mono
    {indentation further : Nat}
    {text : List Char}
    (dedented : Dedented indentation text)
    (bound : indentation ≤ further) :
    Dedented further text := by
  rcases dedented with ended | ⟨margin, below, continued⟩
  · exact .inl ended
  · exact .inr ⟨margin, Nat.lt_of_lt_of_le below bound, continued⟩

end Yaml

end DroneSession
