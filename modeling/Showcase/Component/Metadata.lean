import Showcase.Json.Reader
import Showcase.Record.Field

/-!
# Metadata

A component may come with metadata, a JSON object of optional fields. Metadata that cannot be read as a whole, or of
which one field has a wrong type, count as absent. They are read as they are given, with strings that need not be Unicode
text; a component is made from what they show.

A text is taken to nest no deeper than its reader can follow.
-/

namespace Showcase.Component

/-- What the author of a component says about it, in strings of some kind. -/
structure MetadataOf (text : Type) where
  name : Option text
  category : Option text
  description : Option text
  /-- The variables, each with its label. -/
  labels : Option (List (text × text))
  thumbnail : Option text
  dependencies : List text
deriving DecidableEq, Repr

/-- Nothing is said. -/
def MetadataOf.none {text : Type} : MetadataOf text := ⟨.none, .none, .none, .none, .none, []⟩

/-- Metadata as they are shown. -/
abbrev Metadata := MetadataOf String

/-- Metadata as they are given. -/
abbrev GivenMetadata := MetadataOf JsonString

namespace GivenMetadata

/-- Metadata of a JSON value. -/
def ofJson : Json → Checked GivenMetadata
  | .obj members =>
    Checked.record MetadataOf.mk
      |>.field (Field.optional members "name" Field.string)
      |>.field (Field.optional members "category" Field.string)
      |>.field (Field.optional members "description" Field.string)
      |>.field (Field.optional members "variables" Field.stringTable)
      |>.field (Field.optional members "thumbnail" Field.string)
      |>.field (Field.withDefault members "dependencies" [] (Field.list Field.string))
  | _ => Checked.fault .notRecord

/-- Metadata of a text; nothing is said by a text that cannot be read. -/
def ofText (text : String) : GivenMetadata :=
  match Json.read text.toList with
  | .error _ => .none
  | .ok value =>
    match ofJson value with
    | .ok metadata => metadata
    | .error _ => .none

/-- Metadata with what their strings show. -/
def shown (metadata : GivenMetadata) : Metadata where
  name := metadata.name.map JsonString.shown
  category := metadata.category.map JsonString.shown
  description := metadata.description.map JsonString.shown
  labels := metadata.labels.map fun labels => labels.map fun entry => (entry.1.shown, entry.2.shown)
  thumbnail := metadata.thumbnail.map JsonString.shown
  dependencies := metadata.dependencies.map JsonString.shown

end GivenMetadata

/-- What the metadata of a text show. -/
def Metadata.ofText (text : String) : Metadata := (GivenMetadata.ofText text).shown

end Showcase.Component
