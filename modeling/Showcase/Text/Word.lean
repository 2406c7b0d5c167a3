import Showcase.Text.Table.Alphanumeric

/-!
# Word characters

Letters and digits of every script and the underscore make up words. A word ends where a word character stands beside
something else, or beside the edge of the text.
-/

namespace Showcase.Text

/-- Letters of ASCII. -/
def isLetter (c : Char) : Bool := ('a' ≤ c && c ≤ 'z') || ('A' ≤ c && c ≤ 'Z')

/-- Capital letters of ASCII. -/
def isCapital (c : Char) : Bool := 'A' ≤ c && c ≤ 'Z'

/-- Digits of ASCII. -/
def isDigit (c : Char) : Bool := '0' ≤ c && c ≤ '9'

/-- Letters and digits of every script, and the underscore. -/
def isWord (c : Char) : Bool :=
  if c.toNat < 128 then isLetter c || isDigit c || c == '_' else Table.alphanumeric.holds c.toNat

/-- Decimal digits of every script. -/
def isDecimal (c : Char) : Bool :=
  if c.toNat < 128 then isDigit c else Table.decimalDigit.holds c.toNat

/-- The value of a decimal digit of any script. Its ten digits have successive code points, from zero on. -/
def decimalValue? (c : Char) : Option Nat :=
  (Table.decimalDigit.find? fun range => range.1 ≤ c.toNat && c.toNat ≤ range.2).map fun range =>
    (c.toNat - range.1) % 10

/-- Whether the place between two neighbours, either of them possibly absent, is an edge of a word. -/
def isWordEdge (before after : Option Char) : Bool :=
  before.any isWord != after.any isWord

end Showcase.Text
