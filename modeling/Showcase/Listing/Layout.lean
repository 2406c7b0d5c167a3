import Showcase.Listing.Selection

/-!
# Layouts

A listing is told apart as a static bundle or as a framework project before any file is fetched. A framework project has
a source directory and a manifest; whether it holds a component is seen only later, so it passes. A static bundle needs
a page and a style sheet; metadata and a thumbnail are missed with a warning.
-/

namespace Showcase

/-- How a component is laid out. -/
inductive Layout where
  | static
  | framework
deriving DecidableEq, Repr

/-- The word for a layout. -/
def Layout.name : Layout → String
  | static => "static"
  | framework => "framework"

/-- What was found about a listing. -/
structure Verdict where
  valid : Bool
  errors : List String
  warnings : List String
  layout : Layout
deriving DecidableEq, Repr

namespace Listing

/-- The name of the source directory. -/
def sourceDirectory : String := "src"

/-- The name of the manifest. -/
def manifestName : String := "package.json"

/-- Whether a listing has a source directory and a manifest. -/
def isFramework (entries : List Entry) : Bool :=
  entries.any (fun entry => entry.isDirectory && entry.name == sourceDirectory)
    && entries.any fun entry => !entry.isDirectory && entry.name == manifestName

/-- Whether a listing has a file with one of several endings. -/
def hasFile (entries : List Entry) (endings : List String) : Bool :=
  entries.any fun entry => entry.isFile && hasEnding entry.name endings

/-- The message when something is not present. -/
def missing (present : Bool) (message : String) : List String := if present then [] else [message]

/-- What is missing from a static bundle that has to be there. -/
def missingParts (entries : List Entry) : List String :=
  missing (hasFile entries pageEndings) "No HTML file found"
    ++ missing (hasFile entries styleEndings) "No CSS file found"

/-- What is missing from a static bundle that may be missing. -/
def missingExtras (entries : List Entry) : List String :=
  missing (entries.any fun entry => entry.isFile && entry.name == metadataName)
      "No config.json found - metadata will be auto-generated"
    ++ missing (hasFile entries imageEndings) "No thumbnail image found - preview will be auto-generated"

/-- The verdict on a listing. -/
def validate (entries : List Entry) : Verdict :=
  if isFramework entries then ⟨true, [], ["React/Vite project detected - will parse from src/"], .framework⟩
  else ⟨(missingParts entries).isEmpty, missingParts entries, missingExtras entries, .static⟩

end Listing

end Showcase
