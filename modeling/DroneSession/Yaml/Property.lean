import DroneSession.Number.Literal
import DroneSession.Yaml.BlockText
import DroneSession.Yaml.Token

namespace DroneSession

/-!
# Properties and directives

An anchor names a node and a tag states its type.  Directives stand in front of a document and
declare its version and the handles of its tags.
-/

namespace Yaml

/-- Read the name of an anchor or an alias, which must not run into other text. -/
def name? (input : Input) : Option (String × Input) :=
  let (name, rest) := Input.span input isWord
  let delimited :=
    match rest.peek? 0 with
    | none => true
    | some character =>
        isSpace character || ['?', ':', ',', ']', '\x7d', '%', '@', '\x60'].contains character
  if name.isEmpty || !delimited then
    none
  else
    some (String.ofList name, rest)

/-- Read one escaped octet. -/
def octet? (input : Input) : Option (Nat × Input) :=
  if input.peek? 0 = some '%' then
    let digits := ((input.drop 1).take 2).map Located.character
    if digits.length = 2 then
      (Number.natural? 16 digits).map fun value => (value, input.drop 3)
    else
      none
  else
    none

/-- Read the octets that continue a character. -/
def laterOctets?
    (input : Input) :
    (count : Nat) → Option (Bytes × Input)
  | 0 => some ([], input)
  | count + 1 => do
      let (octet, rest) ← octet? input
      if octet / 64 = 2 then
        let (others, rest) ← laterOctets? rest count
        return (UInt8.ofNat octet :: others, rest)
      else
        none

/--
Read as many escaped octets as the first of them announces.  The octets of a character all have
their form, but together they need not be a character.
-/
def octets? (input : Input) : Option (Bytes × Input) := do
  let (first, rest) ← octet? input
  let count ←
    if first < 128 then some 0
    else if first / 32 = 6 then some 1
    else if first / 16 = 14 then some 2
    else if first / 8 = 30 then some 3
    else none
  let (others, rest) ← laterOctets? rest count
  return (UInt8.ofNat first :: others, rest)

/--
Read a resource name, in which brackets and commas may be allowed.  It has no more characters than
`bound`, which is the text that is read.
-/
def resource?
    (verbatim : Bool)
    (input : Input) :
    (bound : Input) → Option (Bytes × Input)
  | [] => some ([], input)
  | _ :: bound =>
      match input.peek? 0 with
      | none => some ([], input)
      | some character =>
          if character = '%' then do
            let (octets, rest) ← octets? input
            let (others, rest) ← resource? verbatim rest bound
            return (octets ++ others, rest)
          else if isResource character || (verbatim && [',', '[', ']'].contains character) then do
            let (others, rest) ← resource? verbatim (input.drop 1) bound
            return (character.toUInt8 :: others, rest)
          else
            some ([], input)

/-- Read a resource name that is not empty. -/
def nonemptyResource?
    (verbatim : Bool)
    (input : Input) :
    Option (Bytes × Input) :=
  match resource? verbatim input input with
  | some ([], _) => none
  | result => result

/-- Read the part of a tag up to its second exclamation mark, or as far as it could be a handle. -/
def handle (input : Input) : List Char × Input :=
  let (word, rest) := Input.span (input.drop 1) isWord
  if rest.peek? 0 = some '!' then
    ('!' :: (word ++ ['!']), rest.drop 1)
  else
    ('!' :: word, rest)

/-- Whether a handle is closed by a second exclamation mark. -/
def isClosed (handle : List Char) : Bool :=
  1 < handle.length && handle.getLast? == some '!'

/-- The octets of a resource name that count, which are those in front of a zero. -/
def significant (octets : Bytes) : Bytes :=
  octets.takeWhile (· != 0)

/-- Read a tag without checking what follows it; one that says nothing is a mere mark. -/
def openTag? (input : Input) : Option (Token × Input) :=
  if input.peek? 1 = some '<' then do
    let (suffix, rest) ← nonemptyResource? true (input.drop 2)
    if rest.peek? 0 = some '>' then
      return (.tag "" (significant suffix), rest.drop 1)
    else
      none
  else do
    let (handle, rest) := handle input
    if isClosed handle then
      let (suffix, rest) ← nonemptyResource? false rest
      return (.tag (String.ofList handle) (significant suffix), rest)
    else
      let (others, rest) ← resource? false rest rest
      let suffix := significant (Bytes.ofText (String.ofList (handle.drop 1)) ++ others)
      if suffix.isEmpty then
        return (.tag "" (Bytes.ofText "!"), rest)
      else
        return (.tag "!" suffix, rest)

/-- Read a tag, which a separator must follow, or a comma inside brackets. -/
def tag?
    (flow : Bool)
    (input : Input) :
    Option (Token × Input) := do
  let (token, rest) ← openTag? input
  if rest.separates 0 || (flow && rest.peek? 0 == some ',') then
    return (token, rest)
  else
    none

/-- Read a number of a version, which has at most nine digits. -/
def versionPart? (input : Input) : Option (Nat × Input) :=
  let (digits, rest) := Input.span input Char.isDigit
  if 9 < digits.length then
    none
  else
    (Number.natural? 10 digits).map fun value => (value, rest)

/-- Read the version behind the name of its directive. -/
def version? (input : Input) : Option (Token × Input) := do
  let (major, rest) ← versionPart? (Input.span input isBlank).2
  if rest.peek? 0 = some '.' then
    let (minor, rest) ← versionPart? (rest.drop 1)
    return (.versionDirective major minor, rest)
  else
    none

/-- Read a handle and what it stands for behind the name of their directive. -/
def declaration? (input : Input) : Option (Token × Input) := do
  let start := (Input.span input isBlank).2
  if start.peek? 0 = some '!' then
    let (handle, rest) := handle start
    let (blanks, rest) := Input.span rest isBlank
    if (isClosed handle || handle == ['!']) && !blanks.isEmpty then
      let (expansion, rest) ← nonemptyResource? true rest
      if rest.separates 0 then
        return (.tagDirective (String.ofList handle) (significant expansion), rest)
      else
        none
    else
      none
  else
    none

/-- Read a directive behind its percent sign, with the rest of its line. -/
def directive? (input : Input) : Option (Token × Input) := do
  let (name, rest) := Input.span input isWord
  if rest.separates 0 then
    let (token, rest) ←
      if name = "YAML".toList then version? rest
      else if name = "TAG".toList then declaration? rest
      else none
    let rest ← endOfLine? rest
    return (token, rest)
  else
    none

end Yaml

end DroneSession
