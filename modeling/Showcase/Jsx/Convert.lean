import Showcase.Jsx.Rule

/-!
# Source to template

The template of a component source is the markup that its first return statement gives back, run through the
rules of conversion. When there is none, or next to nothing remains, a fixed block asks for manual editing.
-/

namespace Showcase.Jsx

open Pattern

/-- A return statement with its value in parentheses, up to the brace that closes the function. The value is
captured. -/
def returnStatement : Pattern :=
  sequence [literal "return", blanks, char '(', blanks, capture 1 (few (fun _ => true) 0), blanks, char ')',
    optional (char ';'), blanks, char '\x7d']

/-- The markup of the first return statement, unless it is blank. -/
def returnedMarkup? (source : String) : Option String :=
  match returnStatement.find? source.toList with
  | none => none
  | some found =>
    let markup := Text.trim (found.captured 1)
    if markup.isEmpty then none else some (String.ofList markup)

/-- The template of a source that yields none. -/
def fallbackTemplate : String :=
  "<div class=\"component-preview\"><p>Component preview unavailable - use manual editing</p></div>"

/-- A template shorter than this is not usable. -/
def shortestTemplate : Nat := 20

/-- The template of a component source, headed by a comment that names the component. -/
def template (source name : String) : String :=
  match returnedMarkup? source with
  | none => fallbackTemplate
  | some block =>
    let markup := applyRules rules block
    if markup.length < shortestTemplate then fallbackTemplate
    else "<!-- " ++ name ++ " Component -->\n" ++ markup

end Showcase.Jsx
