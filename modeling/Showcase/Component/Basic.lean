import Showcase.Bindings
import Showcase.Component.Category
import Showcase.Component.Metadata
import Showcase.Listing.Layout
import Showcase.Template.Basic

/-!
# Components

What every way of reading a component ends in: a template with its style and its variables, the script that it came
with, and what is known about it.
-/

namespace Showcase

/-- A component, ready to be shown. -/
structure Component where
  name : String
  category : String
  description : Option String
  html : String
  css : String
  script : Option String
  /-- The variables, each with its label. -/
  labels : Bindings
  thumbnail : Option String
  layout : Layout
deriving DecidableEq, Repr

namespace Component

/-- A text that is given and not empty. -/
def filled? : Option String → Option String
  | some s => if s.isEmpty then none else some s
  | none => none

/-- The name of a component that has none. -/
def untitled : String := "Untitled Component"

/-- The component of a static bundle. Its metadata take precedence; without metadata on variables the placeholders of
the page are its variables. -/
def ofStatic (metadata : Metadata) (html css : String) (script thumbnail : Option String) : Component :=
  { name := (filled? metadata.name).getD untitled
    category := categoryOf metadata.category otherCategory
    description := metadata.description
    html := html
    css := css
    script := script
    labels := metadata.labels.getD (Template.labels html)
    thumbnail := thumbnail
    layout := .static }

/-- What is kept of a component as a template record. -/
def templateFields (component : Component) : String × String × Bindings :=
  (component.html, component.css, component.labels)

end Component

end Showcase
