/-!
# Surrogates

Where units have sixteen bits, two of them that are no characters by themselves write one character: the halves of a
surrogate pair. A string from outside may have half of a pair alone. A text of this library has nothing but characters;
such a string is shown in it with the replacement character in the place of each half.
-/

namespace Showcase.Text

/-- The character that stands for what is no character. -/
def replacementChar : Char := Char.ofNat 0xFFFD

/-- Whether a code point is half of a surrogate pair. -/
def isSurrogate (point : Nat) : Bool := 0xD800 ≤ point && point < 0xE000

/-- Whether two code points are the halves of a pair, in their order. -/
def isSurrogatePair (high low : Nat) : Bool := 0xD800 ≤ high && high < 0xDC00 && 0xDC00 ≤ low && low < 0xE000

/-- The code point that the halves of a pair write. -/
def pairedPoint (high low : Nat) : Nat := 0x10000 + (high - 0xD800) * 0x400 + (low - 0xDC00)

/-- Code points with the halves of each pair joined. -/
def joinSurrogates : List Nat → List Nat
  | high :: low :: rest =>
    if isSurrogatePair high low then pairedPoint high low :: joinSurrogates rest
    else high :: joinSurrogates (low :: rest)
  | short => short

/-- Whether two neighbours among code points are the halves of a pair. -/
def holdsPair : List Nat → Bool
  | high :: low :: rest => isSurrogatePair high low || holdsPair (low :: rest)
  | _ => false

/-- A code point as a character; the replacement character stands for half of a pair. -/
def shownPoint (point : Nat) : Char := if isSurrogate point then replacementChar else Char.ofNat point

end Showcase.Text
