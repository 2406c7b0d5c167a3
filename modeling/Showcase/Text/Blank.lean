import Showcase.Text.CodePointSet

/-!
# Blanks

The characters that separate words: the ASCII spaces and the four information separators, the next-line control,
and the space, line and paragraph separators of Unicode. Trimming a text removes them at both ends.
-/

namespace Showcase.Text

/-- Blanks above ASCII. -/
def wideBlanks : CodePointSet :=
  [(0x85, 0x85), (0xA0, 0xA0), (0x1680, 0x1680), (0x2000, 0x200A), (0x2028, 0x2029), (0x202F, 0x202F),
    (0x205F, 0x205F), (0x3000, 0x3000)]

/-- Whether a character separates words. -/
def isBlank (c : Char) : Bool :=
  if c.toNat < 128 then
    c == ' ' || (9 ≤ c.toNat && c.toNat ≤ 13) || (28 ≤ c.toNat && c.toNat ≤ 31)
  else
    wideBlanks.holds c.toNat

/-- The text without the characters at its two ends that satisfy the test. -/
def stripWhile (drops : Char → Bool) (s : List Char) : List Char :=
  ((s.dropWhile drops).reverse.dropWhile drops).reverse

/-- The text without the characters at its end that satisfy the test. -/
def stripEndWhile (drops : Char → Bool) (s : List Char) : List Char :=
  (s.reverse.dropWhile drops).reverse

/-- The text without blanks at its two ends. -/
def trim (s : List Char) : List Char := stripWhile isBlank s

/-- The text without blanks at its end. -/
def trimEnd (s : List Char) : List Char := stripEndWhile isBlank s

/-- Whether a text has nothing but blanks in it. -/
def allBlank (s : List Char) : Bool := s.all isBlank

end Showcase.Text
