import DroneSession.Yaml.Character

namespace DroneSession

/-!
# Plain text

Plain text has no quotes.  It runs over several lines as long as they are indented, and each run of
separators between two words is folded.
-/

namespace Yaml

/--
What separators between two words stand for.  Without a line break they stand for themselves; a
single break becomes a space, and of several breaks all but the first are kept.
-/
def fold (separators : List Char) : List Char :=
  match separators.filter isBreak with
  | [] => separators
  | ['\n'] => [' ']
  | '\n' :: breaks => breaks
  | breaks => breaks

/-- Whether a character ends plain text as the colon behind a key. -/
def endsKey (next : Char) (rest : Input) : Bool :=
  next == ':' && rest.separates 0

/-- A colon that may not stand in front of what follows it inside brackets. -/
def isMisplacedColon (next : Char) (rest : Input) : Bool :=
  next == ':'
    && match rest.peek? 0 with
       | none => false
       | some following => isFlowIndicator following || following == '?'

/-- The characters of plain text up to a separator or an indicator. -/
def plainWord?
    (flow : Bool) :
    (input : Input) → Option (List Char × Input)
  | [] => some ([], [])
  | next :: rest =>
      let character := next.character
      if isSpace character then
        some ([], next :: rest)
      else if flow && isMisplacedColon character rest then
        none
      else if endsKey character rest || (flow && isFlowIndicator character) then
        some ([], next :: rest)
      else
        (plainWord? flow rest).map fun (word, rest) => (character :: word, rest)

/-- Plain text, how it ended and what follows it. -/
structure PlainText where
  text : List Char
  /-- Whether a line break lies between the text and what follows it. -/
  broken : Bool
  rest : Input

/-- Whether separators contain a tab in front of the indentation of a later line. -/
def hasMisplacedTab
    (indentation : Nat)
    (broken : Bool) :
    (input : Input) → Bool
  | [] => false
  | next :: rest =>
      if isBreak next.character then
        hasMisplacedTab indentation true rest
      else if isBlank next.character then
        (broken && next.character == '\t' && next.column < indentation)
          || hasMisplacedTab indentation broken rest
      else
        false

/--
Read words, the first of which follows the given separators.  There are no more words than
characters in `bound`, which is the text that is read: a separator lies between any two words.
-/
def plainWords?
    (flow : Bool)
    (indentation : Nat)
    (separators : List Char)
    (input : Input) :
    (bound : Input) → Option PlainText
  | [] => some ⟨[], separators.any isBreak, input⟩
  | _ :: bound =>
      if input.atBoundary || input.peek? 0 == some '#' then
        some ⟨[], separators.any isBreak, input⟩
      else do
        let (word, rest) ← plainWord? flow input
        let start := if word.isEmpty then [] else fold separators ++ word
        let unjoined := if word.isEmpty then separators else []
        let (following, after) := Input.span rest isSpace
        if following.isEmpty then
          return ⟨start, unjoined.any isBreak, rest⟩
        else if hasMisplacedTab indentation false rest then
          none
        else if !flow && after.column < indentation then
          return ⟨start, following.any isBreak, after⟩
        else
          let others ← plainWords? flow indentation following after bound
          return { others with text := start ++ others.text }

/-- Read plain text; outside of brackets its lines are indented. -/
def plainText?
    (flow : Bool)
    (indentation : Nat)
    (input : Input) :
    Option PlainText :=
  plainWords? flow indentation [] input input

end Yaml

end DroneSession
