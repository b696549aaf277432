/-
# Text in an error message

A text that is quoted for people to read: hidden characters are written by their number, so that
nothing in it can be mistaken.

* `escape`: how one character is written;
* `encode`: the quoted text.
-/
import FlowIntake.Text.Hex
import FlowIntake.Text.Hidden

namespace FlowIntake.Literal

/-- How a character is written between the quotes. -/
def escape (c : Char) : List Char :=
  if c = '"' then ['\\', '"']
  else if c = '\\' then ['\\', '\\']
  else if c = '\n' then ['\\', 'n']
  else if c = '\r' then ['\\', 'r']
  else if c = '\t' then ['\\', 't']
  else if c = '\x00' then ['\\', '0']
  else if Unicode.isHidden c then '\\' :: 'u' :: '\x7b' :: Hex.ofNat c.toNat ++ ['\x7d']
  else [c]

/-- The quoted text. -/
def encode (s : String) : String := String.ofList ('"' :: s.toList.flatMap escape ++ ['"'])

end FlowIntake.Literal
