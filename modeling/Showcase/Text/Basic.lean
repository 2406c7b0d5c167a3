import Showcase.Text.Blank
import Showcase.Text.LetterCase
import Showcase.Text.Quoted

/-!
# Texts

Operations on whole texts that the rest of the library shares: search for a part, split at a separator, endings,
and the `String` forms of trimming, case and quoting.
-/

namespace Showcase.Text

/-- Whether `part` occurs somewhere in the text. -/
def occursIn (part : List Char) : List Char → Bool
  | [] => part.isEmpty
  | c :: rest => part.isPrefixOf (c :: rest) || occursIn part rest

/-- The pieces between the occurrences of a separator; `n` separators give `n + 1` pieces. -/
def splitAtChar (separator : Char) : List Char → List (List Char)
  | [] => [[]]
  | c :: rest =>
    if c == separator then [] :: splitAtChar separator rest
    else
      match splitAtChar separator rest with
      | piece :: pieces => (c :: piece) :: pieces
      | [] => [[c]]

/-- The text with every occurrence of one character replaced by a text. -/
def replaceChar (old : Char) (new : List Char) (s : List Char) : List Char :=
  s.flatMap fun c => if c == old then new else [c]

/-- What stands after the last occurrence of a character, or the whole text. -/
def afterLast (separator : Char) (s : List Char) : List Char :=
  (s.reverse.takeWhile (· != separator)).reverse

/-- Before and after the first occurrence of a character; the second part is absent when it does not occur. -/
def cutAtFirst (separator : Char) (s : List Char) : List Char × Option (List Char) :=
  match s.dropWhile (· != separator) with
  | [] => (s, none)
  | _ :: rest => (s.takeWhile (· != separator), some rest)

end Showcase.Text

namespace Showcase

/-- The string without blanks at its two ends. -/
def trimmed (s : String) : String := String.ofList (Text.trim s.toList)

/-- The string without slashes at its two ends. -/
def withoutOuterSlashes (s : String) : String := String.ofList (Text.stripWhile (· == '/') s.toList)

/-- The string without slashes at its end. -/
def withoutTrailingSlashes (s : String) : String := String.ofList (Text.stripEndWhile (· == '/') s.toList)

/-- The string in lower case. -/
def lowercase (s : String) : String := String.ofList (Text.lower s.toList)

/-- The string between quotes, with escapes. -/
def displayQuoted (s : String) : String := String.ofList (Text.quoted s.toList)

/-- Whether the string begins with another. -/
def beginsWith (s start : String) : Bool := start.toList.isPrefixOf s.toList

/-- Whether the string ends with another. -/
def endsWith (s ending : String) : Bool := ending.toList.isSuffixOf s.toList

/-- Whether the string ends with one of several others. -/
def endsWithAny (s : String) (endings : List String) : Bool := endings.any (endsWith s)

/-- Whether the string contains another. -/
def contains (s part : String) : Bool := Text.occursIn part.toList s.toList

end Showcase
