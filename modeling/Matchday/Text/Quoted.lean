import Matchday.Text.Hex
import Matchday.Text.Printable

/-!
A text in quotation marks, as messages show text that came from outside: the quotation mark and the
backslash are escaped, tab, line feed, carriage return and NUL have short escapes, and any other
character that has no shape of its own, or joins the one before it, is written by its code point.
-/

namespace Matchday.Text
set_option autoImplicit false

/-- How one character stands inside quotation marks. -/
def quotedChar (c : Char) : List Char :=
  if c = '\x00' then ['\\', '0']
  else if c = '\t' then ['\\', 't']
  else if c = '\n' then ['\\', 'n']
  else if c = '\r' then ['\\', 'r']
  else if c = '"' then ['\\', '"']
  else if c = '\\' then ['\\', '\\']
  else if isPrintable c && !isCombining c then [c]
  else ['\\', 'u', '\x7b'] ++ hexadecimal c.toNat ++ ['\x7d']

/-- A text in quotation marks. -/
def quoted (s : String) : String := String.ofList ('"' :: s.toList.flatMap quotedChar ++ ['"'])

end Matchday.Text
