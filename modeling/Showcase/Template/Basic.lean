import Showcase.Bindings
import Showcase.Template.Label
import Showcase.Template.Piece

/-!
# Templates

What a template asks for and what it becomes: the names of its placeholders, the variables detected in it, the text
with bound placeholders filled in, and the names still open. A placeholder without a binding stays as it is written,
so that it remains visible; filled-in text is never read again.
-/

namespace Showcase.Template

/-- The names of the placeholders, without blank ones, in order of occurrence. -/
def occurringNames (html : String) : List String :=
  (pieces html.toList).filterMap fun
    | .letter _ => none
    | .placeholder body => if (Text.trim body).isEmpty then none else some (nameOf body)

/-- The entries of a list without repetition, in order of first occurrence. -/
def firstOccurrences (names : List String) : List String :=
  names.foldl (fun seen name => if seen.contains name then seen else seen ++ [name]) []

/-- The names of the placeholders, each once, in order of first occurrence. -/
def placeholders (html : String) : List String := firstOccurrences (occurringNames html)

/-- The variables of a template: each placeholder's name with its label. -/
def labels (html : String) : Bindings :=
  (occurringNames html).foldl (fun found name => found.putNew name (label name)) []

/-- What a piece becomes under bindings. -/
def fill (bindings : Bindings) : Piece → List Char
  | .letter c => [c]
  | .placeholder body =>
    match bindings.get? (nameOf body) with
    | some text => text.toList
    | none => (Piece.placeholder body).text

/-- The template with every bound placeholder replaced by its text. -/
def substitute (html : String) (bindings : Bindings) : String :=
  if bindings.isEmpty then html
  else String.ofList ((pieces html.toList).flatMap (fill bindings))

/-- The names of the placeholders that have no binding. -/
def unresolved (html : String) (bindings : Bindings) : List String :=
  (placeholders html).filter fun name => !bindings.has name

end Showcase.Template
