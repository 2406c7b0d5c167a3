import Showcase.Component.Upload
import Showcase.Record.Field

/-!
# Forms

The bodies that requests of the service have to have. Each is a JSON object; the issues of a body are told with their
place in it. What the proxy is asked for is kept as it is given; the texts of the builder are those that their strings
show.
-/

namespace Showcase.Service

/-- The body of a request as a record. A body that is not there is missing as a whole. -/
def readBody {α : Type} (read : List (JsonString × Json) → Checked α) (body : Option Json) : Checked α :=
  Checked.under (.member "body") <|
    match body with
    | none | some .null => Checked.fault .missing
    | some (.obj members) => read members
    | some _ => Checked.fault .notRecord

/-- An object as a record inside another. -/
def readObject {α : Type} (read : List (JsonString × Json) → Checked α) : Json → Checked α
  | .obj members => read members
  | _ => Checked.fault .notRecord

/-- Ask for the repository that a text refers to. -/
structure ReferenceForm where
  input : String

/-- The form of a body. -/
def ReferenceForm.ofMembers (members : List (JsonString × Json)) : Checked ReferenceForm :=
  Checked.record ReferenceForm.mk |>.field (Field.required members "input" Field.text)

/-- The file that an object describes. -/
def uploadedFile (members : List (JsonString × Json)) : Checked Component.UploadedFile :=
  Checked.record Component.UploadedFile.mk
    |>.field (Field.required members "path" Field.text)
    |>.field (Field.required members "content" Field.text)

/-- Ask for the component of an uploaded folder, which has a file at least. -/
structure FolderForm where
  files : List Component.UploadedFile

/-- The form of a body. -/
def FolderForm.ofMembers (members : List (JsonString × Json)) : Checked FolderForm :=
  Checked.record FolderForm.mk
    |>.field (Field.required members "files" (Field.filledList (readObject uploadedFile)))

/-- Where variables are looked for. -/
inductive DetectionMode where
  | template
  | source
deriving DecidableEq, Repr

/-- Ask for the variables of a text. -/
structure DetectionForm where
  text : String
  mode : DetectionMode

/-- The form of a body. -/
def DetectionForm.ofMembers (members : List (JsonString × Json)) : Checked DetectionForm :=
  Checked.record DetectionForm.mk
    |>.field (Field.required members "text" Field.text)
    |>.field (Field.withDefault members "mode" .template
      (Field.choice [("template", DetectionMode.template), ("source", .source)]))

/-- Ask for a template with values in the place of its placeholders. -/
structure SubstitutionForm where
  html : String
  bindings : Bindings

/-- The form of a body. -/
def SubstitutionForm.ofMembers (members : List (JsonString × Json)) : Checked SubstitutionForm :=
  Checked.record SubstitutionForm.mk
    |>.field (Field.required members "html" Field.text)
    |>.field (Field.withDefault members "bindings" [] Field.table)

/-- Ask for a static preview. -/
structure PreviewForm where
  html : String
  css : String
  bindings : Bindings

/-- The form of a body. -/
def PreviewForm.ofMembers (members : List (JsonString × Json)) : Checked PreviewForm :=
  Checked.record PreviewForm.mk
    |>.field (Field.required members "html" Field.text)
    |>.field (Field.withDefault members "css" "" Field.text)
    |>.field (Field.withDefault members "bindings" [] Field.table)

/-- Ask for a live preview. -/
structure LiveForm where
  source : String
  css : String

/-- The form of a body. -/
def LiveForm.ofMembers (members : List (JsonString × Json)) : Checked LiveForm :=
  Checked.record LiveForm.mk
    |>.field (Field.required members "source" Field.text)
    |>.field (Field.withDefault members "css" "" Field.text)

/-- Ask the proxy for a listing. -/
structure ListingForm where
  owner : Option JsonString
  repo : Option JsonString
  path : JsonString
  branch : Option JsonString

/-- The form of a body. -/
def ListingForm.ofMembers (members : List (JsonString × Json)) : Checked ListingForm :=
  Checked.record ListingForm.mk
    |>.field (Field.optional members "owner" Field.string)
    |>.field (Field.optional members "repo" Field.string)
    |>.field (Field.withDefault members "path" "" Field.string)
    |>.field (Field.optional members "branch" Field.string)

/-- The first half of a pair in what is asked for. -/
def ListingForm.half? (form : ListingForm) : Option Nat :=
  [form.owner, form.repo, some form.path, form.branch].findSome? fun part => part.bind JsonString.half?

/-- Ask the proxy for a content. -/
structure ContentForm where
  url : Option JsonString

/-- The form of a body. -/
def ContentForm.ofMembers (members : List (JsonString × Json)) : Checked ContentForm :=
  Checked.record ContentForm.mk |>.field (Field.optional members "url" Field.string)

/-- A string that is given and not empty. -/
def filled? (s : Option JsonString) : Option JsonString := s.filter fun given => !given.isEmpty

end Showcase.Service
