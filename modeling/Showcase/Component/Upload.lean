import Showcase.Component.Basic
import Showcase.Jsx.Convert
import Showcase.Variables.Content

/-!
# Uploaded folders

A folder that was uploaded is a list of files with their contents. With a page and a style sheet in it the folder is a
static bundle and is taken as it is. Otherwise its main component source becomes a template, and all style sheets are
joined in the order of the upload.
-/

namespace Showcase.Component

/-- A file of an uploaded folder. -/
structure UploadedFile where
  path : String
  content : String
deriving DecidableEq, Repr

/-- The name of a file: its path after the last slash. -/
def UploadedFile.name (file : UploadedFile) : String := String.ofList (Text.afterLast '/' file.path.toList)

/-- Names of sources that start a program and hold no component. -/
def entryPointNames : List String := ["App.tsx", "App.jsx", "main.tsx", "main.jsx"]

/-- Whether a name is that of a component source: tests and entry points are not. -/
def isSourceName (name : String) : Bool :=
  endsWithAny name Listing.sourceEndings && !contains name "test" && !contains name ".spec"
    && !entryPointNames.contains name

/-- Whether a name is that of a style sheet. -/
def isStyleName (name : String) : Bool := Listing.hasEnding name Listing.styleEndings

/-- Names of the main component, without ending, the most likely first. -/
def mainNames : List String := ["Hero", "Component", "index"]

/-- The main component among sources: the first of the likely names, else the first source. -/
def mainSource? (sources : List UploadedFile) : Option UploadedFile :=
  match mainNames.findSome? fun name => sources.find? fun file => Listing.withoutSourceEnding file.name == name with
  | some file => some file
  | none => sources.head?

/-- The selection among uploaded files. -/
def selectUploaded (files : List UploadedFile) (preferred endings : List String) : Option UploadedFile :=
  Listing.select UploadedFile.name files preferred endings

/-- The component of an uploaded static bundle. -/
def ofStaticUpload (files : List UploadedFile) (page style : UploadedFile) : Component :=
  let script := selectUploaded files Listing.scriptNames Listing.scriptEndings
  let metadata := (selectUploaded files [Listing.metadataName] []).elim MetadataOf.none fun file =>
    Metadata.ofText file.content
  ofStatic metadata page.content style.content (script.map UploadedFile.content) metadata.thumbnail

/-- The component of an uploaded source with style sheets. -/
def ofSourceUpload (main : UploadedFile) (styles : List UploadedFile) : Fallible Component := do
  let name := Listing.withoutSourceEnding main.name
  let labels ← Variables.ofUpload main.content
  pure
    { name := name
      category := "hero"
      description := some ("React component: " ++ name)
      html := Jsx.template main.content name
      css := "\n\n".intercalate (styles.map UploadedFile.content)
      script := some main.content
      labels := labels
      thumbnail := none
      layout := .framework }

/-- The component of an uploaded folder. -/
def ofUpload (files : List UploadedFile) : Fallible Component :=
  match selectUploaded files Listing.pageNames Listing.pageEndings,
      selectUploaded files Listing.styleNames Listing.styleEndings with
  | some page, some style => .ok (ofStaticUpload files page style)
  | _, _ =>
    let styles := files.filter fun file => isStyleName file.name
    match mainSource? (files.filter fun file => isSourceName file.name) with
    | some main => ofSourceUpload main styles
    | none =>
      if styles.isEmpty then fail .parse "No component or CSS files found in the uploaded folder"
      else fail .parse "No React component files (.tsx or .jsx) found"

end Showcase.Component
