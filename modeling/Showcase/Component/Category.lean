import Showcase.Text.Basic

/-!
# Categories

Components are sorted into a few categories. A free text is taken for a category when it names one, outer blanks and
letter case aside; any other text means the last one, and no text a default.
-/

namespace Showcase.Component

/-- The category of everything that has no other. -/
def otherCategory : String := "other"

/-- The categories. -/
def categories : List String := ["hero", "features", "pricing", "testimonials", "footer", otherCategory]

/-- The category that a text stands for. -/
def categoryOf (text : Option String) (default : String) : String :=
  match text with
  | none => default
  | some s =>
    if s.isEmpty then default
    else if categories.contains (lowercase (trimmed s)) then lowercase (trimmed s)
    else otherCategory

end Showcase.Component
