import DroneSession.Yaml.Property
import DroneSession.Yaml.QuotedText

namespace DroneSession

/-!
# Dividing a document into tokens

`tokens?` divides a whole document.  A key is known as such only at the colon behind it, so every
token that could start a key is remembered until its line ends; at the colon the key token, and the
start of a mapping if one starts there, are inserted in front of it.
-/

namespace Yaml

/-- A token that could turn out to be the start of a key. -/
structure PossibleKey where
  /-- The number of tokens before it. -/
  position : Nat
  /-- Nothing but a key can stand there. -/
  required : Bool
  start : Located
  deriving Repr, DecidableEq

/-- A document of which a part was divided into tokens. -/
structure Lexer where
  rest : Input
  tokens : Array Token
  /-- The column of the innermost block; below all columns outside of any block. -/
  indentation : Int
  /-- The columns of the blocks around it, innermost first. -/
  outer : List Int
  /-- The possible key at the innermost level of brackets. -/
  key : Option PossibleKey
  /-- The possible keys at the levels around it, one for each open bracket. -/
  enclosing : List (Option PossibleKey)
  /-- Whether a key may start with the next token. -/
  keyAllowed : Bool

namespace Lexer

/-- A document of which nothing was read. -/
def start (text : List Char) : Lexer where
  rest := locate text
  tokens := #[]
  indentation := -1
  outer := []
  key := none
  enclosing := []
  keyAllowed := true

/-- Whether the next token lies inside brackets. -/
def inFlow (lexer : Lexer) : Bool :=
  !lexer.enclosing.isEmpty

/-- Add a token to those that were read. -/
def emit
    (lexer : Lexer)
    (token : Token) :
    Lexer :=
  { lexer with tokens := lexer.tokens.push token }

/-- Append a token and go on behind it. -/
def accept
    (lexer : Lexer)
    (token : Token)
    (rest : Input) :
    Lexer :=
  { lexer with tokens := lexer.tokens.push token, rest := rest }

/-- Give up a possible key, which is a failure if nothing but a key can stand there. -/
def forgetKey? (lexer : Lexer) : Option Lexer :=
  match lexer.key with
  | none => some lexer
  | some key => if key.required then none else some { lexer with key := none }

/-- The greatest length of a key in octets. -/
def longestKey : Nat :=
  1024

/-- A possible key is void behind the end of its line and where it would be too long. -/
def keep?
    (next : Located) :
    Option PossibleKey → Option (Option PossibleKey)
  | none => some none
  | some key =>
      if key.start.line < next.line ∨ key.start.index + longestKey < next.index then
        if key.required then none else some none
      else
        some (some key)

/-- Give up the possible keys that are void. -/
def expireKeys? (lexer : Lexer) : Option Lexer :=
  match lexer.rest with
  | [] => some lexer
  | next :: _ => do
      let key ← keep? next lexer.key
      let enclosing ← lexer.enclosing.mapM (keep? next)
      return { lexer with key := key, enclosing := enclosing }

/-- Remember that the next token could start a key. -/
def rememberKey? (lexer : Lexer) : Option Lexer :=
  match lexer.rest with
  | [] => some lexer
  | next :: _ =>
      if lexer.keyAllowed then do
        let lexer ← lexer.forgetKey?
        return { lexer with
          key := some
            { position := lexer.tokens.size
              required := !lexer.inFlow && lexer.indentation == next.column
              start := next } }
      else
        some lexer

/-- Close the blocks that are further indented than a column, from the innermost on. -/
def closeBlocks
    (column : Int)
    (lexer : Lexer) :
    (outer : List Int) → Lexer
  | [] => lexer
  | parent :: outer =>
      if column < lexer.indentation then
        closeBlocks column
          { (lexer.emit .blockEnd) with indentation := parent, outer := outer } outer
      else
        lexer

/-- Close the blocks that a token at a column does not belong to. -/
def unindent
    (lexer : Lexer)
    (column : Int) :
    Lexer :=
  if lexer.inFlow then lexer else closeBlocks column lexer lexer.outer

/-- Open a block at a column, unless one is open there; its token is inserted at a position. -/
def indent
    (lexer : Lexer)
    (column position : Nat)
    (token : Token) :
    Lexer :=
  if !lexer.inFlow && lexer.indentation < column then
    { lexer with
      tokens := lexer.tokens.insertIdxIfInBounds position token
      indentation := column
      outer := lexer.indentation :: lexer.outer }
  else
    lexer

/--
Skip separators and comments.  A tab may not take part in the indentation, a byte order mark may
start a line, and a new line lets a key start outside of brackets.
-/
def skip
    (flow : Bool)
    (keyAllowed comment : Bool) :
    (input : Input) → Bool × Input
  | [] => (keyAllowed, [])
  | next :: rest =>
      let character := next.character
      if isBreak character then
        skip flow (keyAllowed || !flow) false rest
      else if comment
          || character == '#'
          || character == ' '
          || (character == '\t' && (flow || !keyAllowed))
          || (character == '\ufeff' && next.column == 0) then
        skip flow keyAllowed (comment || character == '#') rest
      else
        (keyAllowed, next :: rest)

/-- Go on to the next token. -/
def advance (lexer : Lexer) : Lexer :=
  let (keyAllowed, rest) := skip lexer.inFlow lexer.keyAllowed false lexer.rest
  { lexer with keyAllowed := keyAllowed, rest := rest }

/-- A token that ends every block, such as the mark of a document. -/
def acceptBoundary?
    (lexer : Lexer)
    (token : Token)
    (rest : Input) :
    Option Lexer := do
  let lexer ← (lexer.unindent (-1)).forgetKey?
  return { (lexer.accept token rest) with keyAllowed := false }

/-- Accept an opening bracket, inside of which keys are possible again. -/
def acceptOpening?
    (lexer : Lexer)
    (token : Token)
    (rest : Input) :
    Option Lexer := do
  let lexer ← lexer.rememberKey?
  let enclosing := lexer.key :: lexer.enclosing
  return { (lexer.accept token rest) with
    key := none
    enclosing := enclosing
    keyAllowed := true }

/-- Accept a closing bracket, behind which the key of the enclosing one counts. -/
def acceptClosing?
    (lexer : Lexer)
    (token : Token)
    (rest : Input) :
    Option Lexer := do
  let lexer ← lexer.forgetKey?
  let (key, enclosing) :=
    match lexer.enclosing with
    | [] => (none, [])
    | key :: enclosing => (key, enclosing)
  return { (lexer.accept token rest) with
    key := key
    enclosing := enclosing
    keyAllowed := false }

/-- The comma between two items. -/
def acceptComma?
    (lexer : Lexer)
    (rest : Input) :
    Option Lexer := do
  let lexer ← lexer.forgetKey?
  return { (lexer.accept .flowEntry rest) with keyAllowed := true }

/-- Open a block in front of an indicator at a column, where a key may start. -/
def openBlock?
    (lexer : Lexer)
    (column : Nat)
    (token : Token) :
    Option Lexer :=
  if lexer.inFlow then some lexer
  else if lexer.keyAllowed then some (lexer.indent column lexer.tokens.size token)
  else none

/-- Accept the dash of an item, which may open a list. -/
def acceptDash?
    (lexer : Lexer)
    (column : Nat)
    (rest : Input) :
    Option Lexer := do
  let lexer ← lexer.openBlock? column .blockSequenceStart
  let lexer ← lexer.forgetKey?
  return { (lexer.accept .blockEntry rest) with keyAllowed := true }

/-- The question mark in front of a key. -/
def acceptQuestion?
    (lexer : Lexer)
    (column : Nat)
    (rest : Input) :
    Option Lexer := do
  let lexer ← lexer.openBlock? column .blockMappingStart
  let lexer ← lexer.forgetKey?
  let flow := lexer.inFlow
  return { (lexer.accept .key rest) with keyAllowed := !flow }

/-- The colon behind a key, which makes a key of the token that was remembered. -/
def acceptColon?
    (lexer : Lexer)
    (column : Nat)
    (rest : Input) :
    Option Lexer :=
  match lexer.key with
  | some key =>
      let inserted :=
        { lexer with tokens := lexer.tokens.insertIdxIfInBounds key.position .key, key := none }
      let opened := inserted.indent key.start.column key.position .blockMappingStart
      some { (opened.accept .value rest) with keyAllowed := false }
  | none => do
      let lexer ← lexer.openBlock? column .blockMappingStart
      let flow := lexer.inFlow
      return { (lexer.accept .value rest) with keyAllowed := !flow }

/-- A token behind which no key can start but which may be one itself. -/
def acceptPossibleKey?
    (lexer : Lexer)
    (read : Option (Token × Input)) :
    Option Lexer := do
  let lexer ← lexer.rememberKey?
  let (token, rest) ← read
  return { (lexer.accept token rest) with keyAllowed := false }

/-- Block text, behind which a new line has started. -/
def acceptBlockText?
    (lexer : Lexer)
    (literal : Bool)
    (rest : Input) :
    Option Lexer := do
  let lexer ← lexer.forgetKey?
  let (text, rest) ← blockText? literal lexer.indentation rest
  let style := if literal then .literal else .folded
  return { (lexer.accept (.scalar style (String.ofList text)) rest) with keyAllowed := true }

/-- Plain text, behind which a key may start if it is on another line. -/
def acceptPlainText? (lexer : Lexer) : Option Lexer := do
  let lexer ← lexer.rememberKey?
  let plain ← plainText? lexer.inFlow (lexer.indentation + 1).toNat lexer.rest
  return { (lexer.accept (.scalar .plain (String.ofList plain.text)) plain.rest) with
    keyAllowed := plain.broken }

/-- Whether plain text can start with a character, given what follows it. -/
def startsPlainText
    (flow : Bool)
    (character : Char)
    (rest : Input) :
    Bool :=
  if character = '-' then
    match rest.peek? 0 with
    | none => true
    | some following => !isBlank following
  else if character = '?' ∨ character = ':' then
    !flow && !rest.separates 0
  else
    !isIndicator character && !isBlank character

/-- Read the token that starts with a character. -/
def readToken?
    (lexer : Lexer)
    (next : Located)
    (rest : Input) :
    Option Lexer :=
  let flow := lexer.inFlow
  let separated := rest.separates 0
  let text (style : ScalarStyle) (read : List Char × Input) : Token × Input :=
    (.scalar style (String.ofList read.1), read.2)
  match next.character with
  | '[' => lexer.acceptOpening? .flowSequenceStart rest
  | '\x7b' => lexer.acceptOpening? .flowMappingStart rest
  | ']' => lexer.acceptClosing? .flowSequenceEnd rest
  | '\x7d' => lexer.acceptClosing? .flowMappingEnd rest
  | ',' => lexer.acceptComma? rest
  | '*' => lexer.acceptPossibleKey? ((name? rest).map fun (name, rest) => (.alias name, rest))
  | '&' => lexer.acceptPossibleKey? ((name? rest).map fun (name, rest) => (.anchor name, rest))
  | '!' => lexer.acceptPossibleKey? (tag? flow (next :: rest))
  | '\'' => lexer.acceptPossibleKey? ((singleQuoted? rest).map (text .singleQuoted))
  | '"' => lexer.acceptPossibleKey? ((doubleQuoted? rest).map (text .doubleQuoted))
  | character =>
      if character = '-' ∧ separated then lexer.acceptDash? next.column rest
      else if character = '?' ∧ (flow ∨ separated) then lexer.acceptQuestion? next.column rest
      else if character = ':' ∧ (flow ∨ separated) then lexer.acceptColon? next.column rest
      else if character = '|' ∧ ¬flow then lexer.acceptBlockText? true rest
      else if character = '>' ∧ ¬flow then lexer.acceptBlockText? false rest
      else if startsPlainText flow character rest then lexer.acceptPlainText?
      else none

/-- Close what is open at the end of the document. -/
def finish? (lexer : Lexer) : Option Lexer :=
  (lexer.unindent (-1)).forgetKey?

/-- Read the next token, in front of which blocks may end; nothing is left at the end. -/
def step? (lexer : Lexer) : Option Lexer := do
  let lexer ← lexer.advance.expireKeys?
  match lexer.rest with
  | [] => lexer.finish?
  | next :: rest =>
      let lexer := lexer.unindent next.column
      if next.column = 0 ∧ next.character = '%' then
        let (token, rest) ← directive? rest
        lexer.acceptBoundary? token rest
      else if lexer.rest.atMark '-' then
        lexer.acceptBoundary? .documentStart (rest.drop 2)
      else if lexer.rest.atMark '.' then
        lexer.acceptBoundary? .documentEnd (rest.drop 2)
      else
        lexer.readToken? next rest

/-- Read all tokens, each of which takes at least one character; `fuel` bounds their number. -/
def run?
    (lexer : Lexer) :
    (fuel : Nat) → Option (List Token)
  | 0 => none
  | fuel + 1 =>
      match lexer.step? with
      | none => none
      | some next =>
          if next.rest.isEmpty then
            next.finish?.map fun lexer => lexer.tokens.toList
          else
            next.run? fuel

end Lexer

/-- The tokens of a text, unless it is no document. -/
def tokens? (text : String) : Option (List Token) :=
  let characters := text.toList
  if characters.all isReadable then
    (Lexer.start characters).run? (characters.length + 1)
  else
    none

end Yaml

end DroneSession
