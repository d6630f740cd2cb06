import PocketCalculator.Text.Hexadecimal
import PocketCalculator.Text.Visible

/-!
# Quoted text

A text between double quotes, on one line and readable whatever it holds: quotes and backslashes
are preceded by a backslash, the usual control characters have their letter, and every other
character that is not visible is written by its code point, as in `\u{301}`.
-/

namespace PocketCalculator.Text

/-- The character inside quotes. -/
def quoteChar (c : Char) : List Char :=
  if c = '"' then ['\\', '"']
  else if c = '\\' then ['\\', '\\']
  else if c = '\n' then ['\\', 'n']
  else if c = '\r' then ['\\', 'r']
  else if c = '\t' then ['\\', 't']
  else if c = '\x00' then ['\\', '0']
  else if isVisible c then [c]
  else '\\' :: 'u' :: '\x7b' :: (hexDigits c ++ ['\x7d'])

/-- The text between double quotes. -/
def quoted (text : String) : String :=
  String.ofList ('"' :: (text.toList.flatMap quoteChar ++ ['"']))

end PocketCalculator.Text
