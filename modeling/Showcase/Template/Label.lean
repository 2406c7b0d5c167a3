import Showcase.Text.Basic

/-!
# Labels

A variable's name becomes a label for people: capitals and underscores begin new words, all words are in small
letters, and the first letter of the label is a capital. `heroTitle` and `hero_title` both read "Hero title".
-/

namespace Showcase

/-- Put a space before every capital of ASCII and in place of every underscore. -/
def Text.spaceOut (name : List Char) : List Char :=
  name.flatMap fun c => if isCapital c then [' ', c] else if c == '_' then [' '] else [c]

/-- The text with its first character in upper case. -/
def Text.capitalize : List Char → List Char
  | [] => []
  | c :: rest => upperChar c ++ rest

/-- The label of a variable's name. -/
def label (name : String) : String :=
  String.ofList (Text.capitalize (Text.lower (Text.trim (Text.spaceOut name.toList))))

end Showcase
