import DroneSession.Text.Hexadecimal
import DroneSession.Yaml.Node
import DroneSession.Yaml.Plain
import DroneSession.Yaml.PlainText

namespace DroneSession

/-!
# Writing scalars

A text is written plain where it reads back as the same text.  Otherwise it is quoted, or written as
literal text if it has line breaks; only double quotes can hold every text.
-/

namespace Yaml

/-- Characters that show as they are. -/
def isPrintable (character : Char) : Bool :=
  let code := character.toNat
  code == 0x0a
    || (0x20 ≤ code && code ≤ 0x7e)
    || (0xa0 ≤ code && code ≤ 0xfffd && code != 0xfeff)
    || 0x10000 ≤ code

/-- Which ways to write a text read back as the same text. -/
structure Writable where
  plain : Bool
  singleQuoted : Bool
  literal : Bool
  deriving Repr, DecidableEq

namespace Writable

/-- Whether one character is followed directly by another of two classes. -/
def hasPair
    (first second : Char → Bool) :
    List Char → Bool
  | left :: right :: rest => (first left && second right) || hasPair first second (right :: rest)
  | _ => false

/-- Whether a text starts with a separator or is empty. -/
def separates (text : List Char) : Bool :=
  match text with
  | [] => true
  | character :: _ => isSpace character

/-- Whether plain text that goes on like this would end early, behind a separator or not. -/
def endsEarly
    (separated : Bool) :
    (text : List Char) → Bool
  | [] => false
  | character :: rest =>
      (character == ':' && separates rest)
        || (character == '#' && separated)
        || endsEarly (isSpace character) rest

/-- Whether the first character of a text would be taken for an indicator. -/
def startsAsIndicator : List Char → Bool
  | [] => false
  | character :: rest =>
      if ['-', '?', ':'].contains character then separates rest
      else isIndicator character

/-- Whether a text starts like the mark between two documents. -/
def startsAsMark (text : List Char) : Bool :=
  "---".toList.isPrefixOf text || "...".toList.isPrefixOf text

/-- Which ways there are to write a text outside of brackets. -/
def of (text : List Char) : Writable :=
  let isPlainSpace : Char → Bool := fun character => character == ' '
  let unprintable := text.any fun character => !isPrintable character
  let spaceBeforeBreak := hasPair isPlainSpace isBreak text
  let breakBeforeSpace := hasPair isBreak isPlainSpace text
  let edge : Option Char → Bool := fun character =>
    character.any fun character => isPlainSpace character || isBreak character
  let quotable := !unprintable && !spaceBeforeBreak
  { plain :=
      quotable
        && !text.any isBreak
        && !edge text.head?
        && !edge text.getLast?
        && !startsAsMark text
        && !startsAsIndicator text
        && !endsEarly true text
    singleQuoted := quotable && !breakBeforeSpace
    literal := quotable && !text.isEmpty && !(text.getLast?.any isPlainSpace) }

end Writable

/-- Whether plain text would not stand for itself. -/
def isTyped (text : String) : Bool :=
  match PlainValue.of text with
  | .text _ => isPaddedDigits text.toList
  | _ => true

/-- The style in which a text is written: the plainest that reads back. -/
def styleOf (text : String) : ScalarStyle :=
  let characters := text.toList
  let writable := Writable.of characters
  if characters.contains '\n' then
    if writable.literal then .literal else .doubleQuoted
  else if writable.plain && !isTyped text then
    .plain
  else if writable.singleQuoted then
    .singleQuoted
  else
    .doubleQuoted

/-- A text as a node. -/
def Node.ofText (text : String) : Node :=
  .scalar none (styleOf text) text

/-- The scalar of a text that stands for a value. -/
def Node.ofPlain (text : String) : Node :=
  .scalar none .plain text

/-- One character between double quotes. -/
def escaped (character : Char) : String :=
  if character = '\x00' then "\\0"
  else if character = '\x07' then "\\a"
  else if character = '\x08' then "\\b"
  else if character = '\t' then "\\t"
  else if character = '\n' then "\\n"
  else if character = '\x0b' then "\\v"
  else if character = '\x0c' then "\\f"
  else if character = '\r' then "\\r"
  else if character = '\x1b' then "\\e"
  else if character = '"' then "\\\""
  else if character = '\\' then "\\\\"
  else if character = '\x85' then "\\N"
  else if character = '\u2028' then "\\L"
  else if character = '\u2029' then "\\P"
  else if isPrintable character then String.singleton character
  else
    let code := character.toNat
    let digits (width : Nat) : String := (Text.hexadecimal width code).toUpper
    if code ≤ 0xff then "\\x" ++ digits 2
    else if code ≤ 0xffff then "\\u" ++ digits 4
    else "\\U" ++ digits 8

/-- A number of spaces. -/
def spaces (count : Nat) : List Char :=
  List.replicate count ' '

/-- A text with every line that is not empty indented, apart from one that has begun. -/
def indentLines
    (indentation : Nat)
    (begun : Bool) :
    (text : List Char) → List Char
  | [] => []
  | character :: rest =>
      if isBreak character then
        character :: indentLines indentation false rest
      else if begun then
        character :: indentLines indentation true rest
      else
        spaces indentation ++ character :: indentLines indentation true rest

/-- A text between single quotes, in which a quote is written twice. -/
def writeSingleQuoted
    (indentation : Nat)
    (text : List Char) :
    List Char :=
  let doubled := text.flatMap fun character =>
    if character = '\'' then ['\'', '\''] else [character]
  let closing := if text.getLast?.any isBreak then spaces indentation else []
  '\'' :: (indentLines indentation true doubled ++ closing ++ ['\''])

/-- What the header of literal text says about its indentation and the breaks at its end. -/
def literalHints (text : List Char) : List Char :=
  let indentation :=
    match text with
    | [] => []
    | first :: _ => if first == ' ' || isBreak first then ['2'] else []
  let chomping :=
    match text.reverse with
    | [] => ['-']
    | [last] => if isBreak last then ['+'] else ['-']
    | last :: previous :: _ =>
        if !isBreak last then ['-']
        else if isBreak previous then ['+']
        else []
  indentation ++ chomping

/-- A text as indented lines behind a header. -/
def writeLiteral
    (indentation : Nat)
    (text : List Char) :
    List Char :=
  '|' :: (literalHints text ++ '\n' :: indentLines indentation false text)

/-- A scalar without its tag; lines behind its first one are indented. -/
def writeText
    (indentation : Nat)
    (style : ScalarStyle)
    (text : String) :
    String :=
  match style with
  | .plain => text
  | .singleQuoted => String.ofList (writeSingleQuoted indentation text.toList)
  | .doubleQuoted => "\"" ++ String.join (text.toList.map escaped) ++ "\""
  | .literal | .folded => String.ofList (writeLiteral indentation text.toList)

end Yaml

end DroneSession
