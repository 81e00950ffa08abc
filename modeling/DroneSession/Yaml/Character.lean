namespace DroneSession

/-!
# Characters of a document

The classes into which the grammar of documents divides characters, and the position of each
character in its document.
-/

namespace Yaml

/-- Characters that may stand in a document at all. -/
def isReadable (character : Char) : Bool :=
  let code := character.toNat
  code == 0x09 || code == 0x0a || code == 0x0d || code == 0x85
    || (0x20 ≤ code && code ≤ 0x7e)
    || (0xa0 ≤ code && code ≤ 0xfffd)
    || 0x10000 ≤ code

/-- Characters that end a line. -/
def isBreak (character : Char) : Bool :=
  character == '\n' || character == '\r' || character == '\x85'
    || character == '\u2028' || character == '\u2029'

/-- Characters that separate words of one line. -/
def isBlank (character : Char) : Bool :=
  character == ' ' || character == '\t'

/-- Characters that separate words. -/
def isSpace (character : Char) : Bool :=
  isBlank character || isBreak character

/-- Characters of names, which are those of anchors and tag handles. -/
def isWord (character : Char) : Bool :=
  character.isAlphanum || character == '_' || character == '-'

/-- Characters that have a meaning inside brackets. -/
def isFlowIndicator (character : Char) : Bool :=
  [',', '[', ']', '\x7b', '\x7d'].contains character

/-- Characters that cannot start plain text. -/
def isIndicator (character : Char) : Bool :=
  isFlowIndicator character
    || ['-', '?', ':', '#', '&', '*', '!', '|', '>', '\'', '"', '%', '@', '\x60'].contains character

/-- Characters of a resource name; a percent sign starts an escaped octet. -/
def isResource (character : Char) : Bool :=
  isWord character
    || [';', '/', '?', ':', '@', '&', '=', '+', '$', '.', '%', '!', '~', '*'].contains character
    || ['\'', '(', ')'].contains character

/-- A character and the place at which it stands in a document. -/
structure Located where
  character : Char
  /-- The number of octets before it. -/
  index : Nat
  line : Nat
  column : Nat
  deriving Repr, DecidableEq

/-- The rest of a document that was not read yet. -/
abbrev Input :=
  List Located

/-- Locate the characters behind a position; the ways to end a line become one character each. -/
def locateFrom
    (index line column : Nat) :
    (text : List Char) → Input
  | [] => []
  | '\r' :: '\n' :: text =>
      ⟨'\n', index, line, column⟩ :: locateFrom (index + 2) (line + 1) 0 text
  | character :: text =>
      let next := index + character.utf8Size
      if isBreak character then
        let written := if character = '\r' ∨ character = '\x85' then '\n' else character
        ⟨written, index, line, column⟩ :: locateFrom next (line + 1) 0 text
      else
        ⟨character, index, line, column⟩ :: locateFrom next line (column + 1) text

/-- Locate the characters of a document. -/
def locate (text : List Char) : Input :=
  locateFrom 0 0 0 text

namespace Input

/-- The character at a distance. -/
def peek?
    (input : Input)
    (distance : Nat) :
    Option Char :=
  input[distance]?.map Located.character

/-- The column of the next character; at the end it does not matter. -/
def column (input : Input) : Nat :=
  match input with
  | [] => 0
  | next :: _ => next.column

/-- Whether a separator or the end of the document lies at a distance. -/
def separates
    (input : Input)
    (distance : Nat) :
    Bool :=
  match input.peek? distance with
  | none => true
  | some character => isSpace character

/-- The characters up to the first that does not belong to a class, and what follows them. -/
def span
    (input : Input)
    (belongs : Char → Bool) :
    List Char × Input :=
  ( (input.takeWhile fun next => belongs next.character).map Located.character,
    input.dropWhile fun next => belongs next.character )

/-- Whether the next characters are a line of three dashes or three dots. -/
def atMark
    (input : Input)
    (mark : Char) :
    Bool :=
  input.column == 0
    && input.peek? 0 == some mark
    && input.peek? 1 == some mark
    && input.peek? 2 == some mark
    && input.separates 3

/-- Whether a document starts or ends here. -/
def atBoundary (input : Input) : Bool :=
  input.atMark '-' || input.atMark '.'

end Input

end Yaml

end DroneSession
