import Showcase.Text.Hex
import Showcase.Text.Printable

/-!
# Quoted display

A text inside a message stands between quotes, so that its ends and its unprintable characters can be seen. Single
quotes are used unless the text holds a single quote and no double quote. Inside, the backslash and the quote in use
are escaped by a backslash, tab, newline and return by a letter, and other characters without a printed form by their
code in two, four or eight hexadecimal digits.
-/

namespace Showcase.Text

/-- The quote that a text is displayed between. -/
def quoteFor (s : List Char) : Char :=
  if s.contains '\'' && !s.contains '"' then '"' else '\''

/-- The displayed form of one character between the given quotes. -/
def quotedChar (quote c : Char) : List Char :=
  if c == quote || c == '\\' then ['\\', c]
  else if c == '\t' then ['\\', 't']
  else if c == '\n' then ['\\', 'n']
  else if c == '\r' then ['\\', 'r']
  else if isPrintable c then [c]
  else if c.toNat < 0x100 then '\\' :: 'x' :: hexDigits 2 c.toNat
  else if c.toNat < 0x10000 then '\\' :: 'u' :: hexDigits 4 c.toNat
  else '\\' :: 'U' :: hexDigits 8 c.toNat

/-- A text between quotes, with escapes. -/
def quoted (s : List Char) : List Char :=
  let quote := quoteFor s
  quote :: s.flatMap (quotedChar quote) ++ [quote]

end Showcase.Text
