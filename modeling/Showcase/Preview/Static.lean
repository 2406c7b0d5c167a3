import Showcase.Html.Body
import Showcase.Preview.Surface
import Showcase.Template.Basic

/-!
# Static previews

A static preview is the template with its placeholders filled in, in a document with a base style and the style of the
component. The renderer writes it as a whole whenever its inputs change, and not at all while they stay the same.
-/

namespace Showcase.Preview

/-- The style that every static preview begins with. -/
def baseReset : String :=
  "/* Base reset */\nbody \x7b margin: 0; font-family: sans-serif; \x7d\n* \x7b box-sizing: border-box; \x7d"

/-- The document of a static preview. -/
def staticDocument (html css : String) (bindings : Bindings) : Fallible String := do
  let (body, inlineCss) ← Html.splitBody (Template.substitute html bindings)
  let styles := "\n".intercalate ([baseReset, css, inlineCss].filter fun part => !part.isEmpty)
  pure ("<!DOCTYPE html>\n<html>\n<head>\n<meta charset=\"UTF-8\">\n<style>\n" ++ styles
    ++ "\n</style>\n</head>\n<body>\n" ++ body ++ "\n</body>\n</html>\n")

/-- How far a static preview has come. -/
inductive StaticPhase where
  | idle
  | rendering
  | rendered
deriving DecidableEq, Repr

/-- The word for a phase. -/
def StaticPhase.name : StaticPhase → String
  | idle => "idle"
  | rendering => "rendering"
  | rendered => "rendered"

/-- A renderer of static previews: its surface, how far it has come, and the inputs of its last rendering. -/
structure StaticRenderer where
  surface : Option Surface
  phase : StaticPhase
  html : String
  css : String
  bindings : Bindings

namespace StaticRenderer

/-- A renderer before its first rendering. -/
def on (surface : Option Surface) : StaticRenderer := ⟨surface, .idle, "", "", []⟩

/-- The renderer on another surface. -/
def mount (renderer : StaticRenderer) (surface : Surface) : StaticRenderer := { renderer with surface := some surface }

/-- Render inputs. Without a surface only the inputs are remembered. A write that fails leaves the renderer idle, so
that the next update writes again. -/
def render (renderer : StaticRenderer) (html css : String) (bindings : Bindings) :
    Fallible (Option String) × StaticRenderer :=
  let renderer := { renderer with html := html, css := css, bindings := bindings }
  match renderer.surface with
  | none => (.ok none, renderer)
  | some surface =>
    match staticDocument html css bindings with
    | .error failure => (.error failure, { renderer with phase := .rendering })
    | .ok document =>
      match surface.write document with
      | (.error failure, after) => (.error failure, { renderer with surface := some after, phase := .idle })
      | (.ok (), after) => (.ok (some document), { renderer with surface := some after, phase := .rendered })

/-- Render again with some of the inputs changed; nothing is written when the surface shows those inputs already. -/
def update (renderer : StaticRenderer) (html css : Option String) (bindings : Option Bindings) :
    Fallible (Option String) × StaticRenderer :=
  let html := html.getD renderer.html
  let css := css.getD renderer.css
  let bindings := bindings.getD renderer.bindings
  if renderer.phase = .rendered ∧ html = renderer.html ∧ css = renderer.css ∧ bindings.agree renderer.bindings then
    (.ok none, renderer)
  else renderer.render html css bindings

end StaticRenderer

end Showcase.Preview
