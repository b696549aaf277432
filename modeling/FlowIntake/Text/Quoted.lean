/-
# Quoted text

A text between double quotes, with a backslash before what may not stand there: the quote, the
backslash and the control characters below U+0020.  Every other character stands for itself.

* `escape`: how one character is written;
* `encode`: the quoted form of a text.
-/
import FlowIntake.Text.Hex

namespace FlowIntake.Quoted

/-- How a character is written between the quotes. -/
def escape (c : Char) : List Char :=
  if c = '"' then ['\\', '"']
  else if c = '\\' then ['\\', '\\']
  else if c = '\n' then ['\\', 'n']
  else if c = '\r' then ['\\', 'r']
  else if c = '\t' then ['\\', 't']
  else if c = '\x08' then ['\\', 'b']
  else if c = '\x0c' then ['\\', 'f']
  else if c < ' ' then ['\\', 'u', '0', '0'] ++ Hex.padded 2 c.toNat
  else [c]

/-- The quoted form of a text. -/
def encode (s : String) : String := String.ofList ('"' :: s.toList.flatMap escape ++ ['"'])

end FlowIntake.Quoted
