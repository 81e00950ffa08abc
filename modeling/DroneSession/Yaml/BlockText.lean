import DroneSession.Number.Literal
import DroneSession.Yaml.Character

namespace DroneSession

/-!
# Block text

Block text consists of all following lines that are indented as its first one is.  Literal text
keeps its lines and folded text joins them; the header says what becomes of the breaks at the end.
-/

namespace Yaml

/-- What becomes of the line breaks at the end of block text. -/
inductive Chomping where
  | strip
  /-- One break is kept. -/
  | clip
  | keep
  deriving Repr, DecidableEq

/-- What stands behind the mark of block text. -/
structure BlockHeader where
  chomping : Chomping
  /-- How much further than its parent the text is indented, if the header says so. -/
  increment : Option Nat
  deriving Repr, DecidableEq

/-- Read the chomping, if there is any. -/
def chomping? (input : Input) : Option Chomping × Input :=
  match input with
  | [] => (none, [])
  | next :: rest =>
      if next.character = '+' then (some .keep, rest)
      else if next.character = '-' then (some .strip, rest)
      else (none, next :: rest)

/-- Read the increment, if there is any; zero is refused. -/
def increment? (input : Input) : Option (Option Nat × Input) :=
  match input with
  | [] => some (none, [])
  | next :: rest =>
      if next.character = '0' then none
      else if next.character.isDigit then some (Number.digitValue? next.character, rest)
      else some (none, next :: rest)

/-- Read the header behind the indicator of block text; its two parts come in either order. -/
def blockHeader? (input : Input) : Option (BlockHeader × Input) := do
  match chomping? input with
  | (some chomping, rest) =>
      let (increment, rest) ← increment? rest
      return (⟨chomping, increment⟩, rest)
  | (none, rest) =>
      let (increment, rest) ← increment? rest
      let (chomping, rest) := if increment.isSome then chomping? rest else (none, rest)
      return (⟨chomping.getD .clip, increment⟩, rest)

/-- Skip blanks and a comment up to the end of a line, and the line break itself. -/
def endOfLine? (input : Input) : Option Input :=
  match (Input.span input isBlank).2 with
  | [] => some []
  | next :: rest =>
      if next.character = '#' then
        some ((Input.span rest fun character => !isBreak character).2.drop 1)
      else if isBreak next.character then
        some rest
      else
        none

/-- Line breaks in front of the next line of a block, and what follows them. -/
structure BlankLines where
  breaks : List Char
  /-- The greatest column that was seen, which is the indentation if it is not known yet. -/
  greatest : Nat
  rest : Input

/-- Skip blank lines; spaces belong to the indentation up to a column, or all of them if none is
known. -/
def blankLines?
    (indentation : Option Nat)
    (greatest : Nat) :
    (input : Input) → Option BlankLines
  | [] => some ⟨[], greatest, []⟩
  | next :: rest =>
      let inside :=
        match indentation with
        | none => true
        | some column => decide (next.column < column)
      if inside && next.character == ' ' then
        blankLines? indentation greatest rest
      else if inside && next.character == '\t' then
        none
      else if isBreak next.character then
        (blankLines? indentation (max greatest next.column) rest).map fun lines =>
          { lines with breaks := next.character :: lines.breaks }
      else
        some ⟨[], max greatest next.column, next :: rest⟩

/-- The lines of a block, the breaks behind them and what follows. -/
structure BlockLines where
  text : List Char
  /-- The break behind the last line. -/
  final : List Char
  /-- The breaks of the blank lines behind it. -/
  trailing : List Char
  rest : Input

/-- The breaks between two lines, which folded text joins unless one of the lines is indented. -/
def joinLines
    (folded : Bool)
    (final trailing : List Char) :
    List Char :=
  if folded && final == ['\n'] then
    if trailing.isEmpty then [' '] else trailing
  else
    final ++ trailing

/--
Read the lines of a block behind the given breaks.  There are no more lines than characters in
`bound`, which is the text that is read: a line of a block is not empty.
-/
def blockLines?
    (literal : Bool)
    (indentation : Nat)
    (indented : Bool)
    (final trailing : List Char)
    (input : Input) :
    (bound : Input) → Option BlockLines
  | [] => some ⟨[], final, trailing, input⟩
  | _ :: bound =>
      match input with
      | [] => some ⟨[], final, trailing, []⟩
      | next :: _ =>
          if next.column = indentation then do
            let starts := isBlank next.character
            let start := joinLines (!literal && !indented && !starts) final trailing
            let (line, rest) := Input.span input fun character => !isBreak character
            let newFinal := (rest.take 1).map Located.character
            let blank ← blankLines? (some indentation) 0 (rest.drop 1)
            let others ←
              blockLines? literal indentation starts newFinal blank.breaks blank.rest bound
            return { others with text := start ++ line ++ others.text }
          else
            some ⟨[], final, trailing, input⟩

/-- Read block text behind its indicator; the parent of the text is indented to a column. -/
def blockText?
    (literal : Bool)
    (parent : Int)
    (input : Input) :
    Option (List Char × Input) := do
  let (header, rest) ← blockHeader? input
  let rest ← endOfLine? rest
  let given := header.increment.map fun increment => (max parent 0).toNat + increment
  let blank ← blankLines? given 0 rest
  let indentation := given.getD (max (max blank.greatest (parent + 1).toNat) 1)
  let lines ←
    blockLines? literal indentation false [] blank.breaks blank.rest blank.rest
  match header.chomping with
  | .strip => return (lines.text, lines.rest)
  | .clip => return (lines.text ++ lines.final, lines.rest)
  | .keep => return (lines.text ++ lines.final ++ lines.trailing, lines.rest)

end Yaml

end DroneSession
