import Showcase.Listing.Entry

/-!
# Selection of files

The parts of a component are found among files by their names. Some names are preferred, each before the next; when no
file has one of them, the first file with a fitting ending is taken. A component source is looked for by its ending,
apart from helpers, and only when there is none a barrel file is taken.
-/

namespace Showcase.Listing

/-! ## Names -/

/-- Names of the page of a component. -/
def pageNames : List String := ["index.html", "component.html"]

/-- Endings of pages. -/
def pageEndings : List String := [".html", ".htm"]

/-- Names of the style sheet of a component. -/
def styleNames : List String := ["style.css", "styles.css"]

/-- Endings of style sheets. -/
def styleEndings : List String := [".css"]

/-- Names of the script of a component. -/
def scriptNames : List String := ["script.js", "index.js"]

/-- Endings of scripts. -/
def scriptEndings : List String := [".js"]

/-- Names of the thumbnail of a component. -/
def thumbnailNames : List String := ["thumbnail.png", "preview.png"]

/-- Endings of images. -/
def imageEndings : List String := [".png", ".jpg", ".jpeg"]

/-- The name of the metadata file. -/
def metadataName : String := "config.json"

/-- Endings of component sources. -/
def sourceEndings : List String := [".tsx", ".jsx"]

/-- Names of barrel files. -/
def barrelNames : List String := ["index.tsx", "index.jsx"]

/-- Parts of the paths of helpers. -/
def helperPaths : List String := ["/ui/", "/figma/"]

/-- Whether a name has one of several endings, its letter case aside. -/
def hasEnding (name : String) (endings : List String) : Bool := endsWithAny (lowercase name) endings

/-- The name of a component source without its ending. -/
def withoutSourceEnding (name : String) : String :=
  match sourceEndings.find? (endsWith name) with
  | some ending => String.ofList (name.toList.take (name.length - ending.length))
  | none => name

/-! ## Choices -/

/-- The first of the files by the order of preferred names, else the first with a fitting ending. -/
def select {α : Type} (nameOf : α → String) (files : List α) (preferred endings : List String) : Option α :=
  match preferred.findSome? fun name => files.find? fun file => nameOf file == name with
  | some file => some file
  | none => files.find? fun file => hasEnding (nameOf file) endings

/-- The selection among the files of a listing. -/
def selectFile (entries : List Entry) (preferred endings : List String) : Option Entry :=
  select Entry.name (entries.filter Entry.isFile) preferred endings

/-- Whether a component source is a helper or a barrel file. -/
def isHelper (entry : Entry) : Bool :=
  beginsWith entry.name "index" || helperPaths.any fun part => contains ("/" ++ entry.path) part

/-- The component source of a listing: the first that is no helper, else the first barrel file. -/
def componentSource? (entries : List Entry) : Option Entry :=
  let sources := entries.filter fun entry => entry.isFile && endsWithAny entry.name sourceEndings
  match sources.find? fun entry => !isHelper entry with
  | some entry => some entry
  | none => sources.find? fun entry => barrelNames.contains entry.name

end Showcase.Listing
