import LineEcho.Text.Printable

/-!
# Text between double quotes, as it is shown in messages

A quote and a backslash are preceded by a backslash, the common control characters have names, and
every other character that is not shown as itself is given by its number.
-/

namespace LineEcho.Text

/-- The number of a character, in lower-case hexadecimal. -/
def hexadecimal (value : Nat) : List Char :=
  Nat.toDigits 16 value

def quotedChar (character : Char) : List Char :=
  if character = '\x00' then ['\\', '0']
  else if character = '\t' then ['\\', 't']
  else if character = '\n' then ['\\', 'n']
  else if character = '\r' then ['\\', 'r']
  else if character = '"' then ['\\', '"']
  else if character = '\\' then ['\\', '\\']
  else if isShown character then [character]
  else ['\\', 'u', '\x7b'] ++ hexadecimal character.toNat ++ ['\x7d']

def quoted (text : String) : String :=
  "\"" ++ String.ofList (text.toList.flatMap quotedChar) ++ "\""

end LineEcho.Text
