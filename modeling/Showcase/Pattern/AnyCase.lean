import Showcase.Pattern.Basic
import Showcase.Text.LetterCase

/-!
# Words in any letter case

A word of ASCII letters matches whatever the case of its letters. A letter matches as its lower case; the dotless i and
the long s, which have no lower case but themselves, match as i and s.
-/

namespace Showcase.Pattern

/-- The letter that a letter is matched as. -/
def matchedLetter (c : Char) : Char :=
  if c.toNat == 0x131 then 'i' else if c.toNat == 0x17F then 's' else Text.lowerChar c

/-- A word in any letter case. -/
def anyCase (word : String) : Pattern :=
  sequence (word.toList.map fun c => one fun d => matchedLetter d == Text.lowerChar c)

end Showcase.Pattern
