import DroneSession.Text.Hexadecimal
import DroneSession.Text.Invisible

namespace DroneSession

/-!
# Quoted text

Inspected texts stand between double quotes.  Quotes, backslashes and control characters are
escaped, and so is every character that does not show by itself.
-/

namespace Text

/-- A character as it stands between quotes. -/
def escaped (character : Char) : String :=
  if character = '\x00' then "\\0"
  else if character = '\t' then "\\t"
  else if character = '\n' then "\\n"
  else if character = '\r' then "\\r"
  else if character = '"' then "\\\""
  else if character = '\\' then "\\\\"
  else if isInvisible character then
    "\\u\x7b" ++ hexadecimal 1 character.toNat ++ "\x7d"
  else
    String.singleton character

/-- A text between quotes, with everything escaped that does not show. -/
def quoted (text : String) : String :=
  "\"" ++ String.join (text.toList.map escaped) ++ "\""

end Text

end DroneSession
