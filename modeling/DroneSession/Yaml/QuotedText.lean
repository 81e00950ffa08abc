import DroneSession.Number.Literal
import DroneSession.Yaml.PlainText

namespace DroneSession

/-!
# Quoted text

Text between single quotes has no escapes but a doubled quote.  Text between double quotes has
escapes, one of which joins two lines.  In both, separators are folded as in plain text.
-/

namespace Yaml

/-- A span leaves no more than there was. -/
theorem Input.length_span_le
    (input : Input)
    (belongs : Char → Bool) :
    (input.span belongs).2.length ≤ input.length := by
  unfold Input.span
  induction input with
  | nil => exact Nat.le_refl 0
  | cons next rest inductionHypothesis =>
      simp only [List.dropWhile_cons]
      split
      · exact Nat.le_succ_of_le inductionHypothesis
      · exact Nat.le_refl _

/-- The text up to the closing single quote, and what follows the quote. -/
def singleQuoted?
    (input : Input) :
    Option (List Char × Input) :=
  if input.atBoundary then
    none
  else
    match input with
    | [] => none
    | next :: rest =>
        if isSpace next.character then
          let separated := Input.span rest isSpace
          (singleQuoted? separated.2).map fun (text, rest) =>
            (fold (next.character :: separated.1) ++ text, rest)
        else if next.character = '\'' then
          match rest with
          | [] => some ([], [])
          | second :: rest =>
              if second.character = '\'' then
                (singleQuoted? rest).map fun (text, rest) => ('\'' :: text, rest)
              else
                some ([], second :: rest)
        else
          (singleQuoted? rest).map fun (text, rest) => (next.character :: text, rest)
termination_by input.length
decreasing_by
  · exact Nat.lt_succ_of_le (Input.length_span_le rest isSpace)
  · simp only [List.length_cons]
    omega
  · exact Nat.lt_succ_self _

/-- The character that a letter stands for behind the mark of an escape. -/
def letterEscape? (letter : Char) : Option Char :=
  match letter with
  | '0' => some '\x00'
  | 'a' => some '\x07'
  | 'b' => some '\x08'
  | 't' => some '\t'
  | '\t' => some '\t'
  | 'n' => some '\n'
  | 'v' => some '\x0b'
  | 'f' => some '\x0c'
  | 'r' => some '\r'
  | 'e' => some '\x1b'
  | ' ' => some ' '
  | '"' => some '"'
  | '/' => some '/'
  | '\\' => some '\\'
  | 'N' => some '\x85'
  | '_' => some '\xa0'
  | 'L' => some '\u2028'
  | 'P' => some '\u2029'
  | _ => none

/-- The number of hexadecimal digits behind a letter that calls for them. -/
def codeWidth (letter : Char) : Nat :=
  if letter = 'x' then 2
  else if letter = 'u' then 4
  else if letter = 'U' then 8
  else 0

/-- The character whose code has exactly these hexadecimal digits. -/
def codeEscape?
    (width : Nat)
    (digits : List Char) :
    Option Char :=
  if width = 0 ∨ digits.length ≠ width then
    none
  else
    match Number.natural? 16 digits with
    | none => none
    | some code => if code.isValidChar then some (Char.ofNat code) else none

/-- The text up to the closing double quote, and what follows the quote. -/
def doubleQuoted?
    (input : Input) :
    Option (List Char × Input) :=
  if input.atBoundary then
    none
  else
    match input with
    | [] => none
    | next :: rest =>
        if isSpace next.character then
          let separated := Input.span rest isSpace
          (doubleQuoted? separated.2).map fun (text, rest) =>
            (fold (next.character :: separated.1) ++ text, rest)
        else if next.character = '"' then
          some ([], rest)
        else if next.character = '\\' then
          match rest with
          | [] => none
          | letter :: rest =>
              if isBreak letter.character then
                let separated := Input.span rest isSpace
                (doubleQuoted? separated.2).map fun (text, rest) =>
                  (separated.1.filter isBreak ++ text, rest)
              else
                let width := codeWidth letter.character
                let digits := (rest.take width).map Located.character
                match letterEscape? letter.character, codeEscape? width digits with
                | some character, _ =>
                    (doubleQuoted? rest).map fun (text, rest) => (character :: text, rest)
                | none, some character =>
                    (doubleQuoted? (rest.drop width)).map fun (text, rest) =>
                      (character :: text, rest)
                | none, none => none
        else
          (doubleQuoted? rest).map fun (text, rest) => (next.character :: text, rest)
termination_by input.length
decreasing_by
  · exact Nat.lt_succ_of_le (Input.length_span_le rest isSpace)
  · have bound := Input.length_span_le rest isSpace
    simp only [List.length_cons]
    omega
  · simp only [List.length_cons]
    omega
  · simp only [List.length_cons, List.length_drop]
    omega
  · exact Nat.lt_succ_self _

end Yaml

end DroneSession
