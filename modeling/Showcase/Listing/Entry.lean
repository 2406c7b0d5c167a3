import Showcase.Failure
import Showcase.Record.Field

/-!
# Entries of a listing

A directory of a repository is listed as entries, each a file or a directory. Entries are exchanged in the form of the
contents interface, where a directory has the type `dir`, and in a form of their own. A directory never has a content
address, whatever the other side says.
-/

namespace Showcase

/-- What an entry is. -/
inductive EntryKind where
  | file
  | directory
deriving DecidableEq, Repr

/-- The word for what an entry is. -/
def EntryKind.name : EntryKind → String
  | file => "file"
  | directory => "directory"

/-- One entry of a directory listing. -/
structure Entry where
  name : String
  path : String
  kind : EntryKind
  downloadUrl : Option String
  size : Option Int
  sha : Option String
deriving DecidableEq, Repr

namespace Entry

/-- Whether an entry is a directory. -/
def isDirectory (entry : Entry) : Bool := entry.kind == .directory

/-- Whether an entry is a file. -/
def isFile (entry : Entry) : Bool := entry.kind == .file

/-- The content address of a file, unless it is absent or empty. -/
def address? (entry : Entry) : Option String :=
  match entry.downloadUrl with
  | some url => if url.isEmpty then none else some url
  | none => none

/-! ## Reading -/

/-- The content address that a directory is given is dropped unless it counts as false anyway. -/
def addressFor (isDirectory : Bool) (address : Json) : Json :=
  if isDirectory && address.isTruthy then .null else address

/-- An entry of the contents interface. A missing path is the name, and every type other than `dir` is a file. -/
def ofContents (value : Json) : Fallible Entry :=
  match value with
  | .obj members =>
    let isDirectory := (Json.member? members "type").bind Json.text? == some "dir"
    match Json.member? members "name" with
    | none => .error (.unknownKey "name")
    | some name =>
      let member (key : String) : Json := (Json.member? members key).getD .null
      Fallible.ofChecked "RemoteFile" <|
        Checked.record (fun name path => Entry.mk name path (if isDirectory then .directory else .file))
          |>.field ((Field.text name).under (.member "name"))
          |>.field ((Field.text ((Json.member? members "path").getD name)).under (.member "path"))
          |>.field ((Field.nullable Field.text (addressFor isDirectory (member "download_url"))).under
            (.member "download_url"))
          |>.field ((Field.nullable Field.whole (member "size")).under (.member "size"))
          |>.field ((Field.nullable Field.text (member "sha")).under (.member "sha"))
  | other => .error (.noMember other.kindName "get")

/-- The kinds by their words. -/
def kinds : List (String × EntryKind) := [("file", .file), ("directory", .directory)]

/-- An entry in the form of its own. -/
def ofMembers (members : List (JsonString × Json)) : Fallible Entry :=
  let isDirectory := (Json.member? members "kind").bind Json.text? == some "directory"
  Fallible.ofChecked "RemoteFile" <|
    Checked.record Entry.mk
      |>.field (Field.required members "name" Field.text)
      |>.field (Field.required members "path" Field.text)
      |>.field (Field.required members "kind" (Field.choice kinds))
      |>.field (Field.withDefault members "download_url" none fun address =>
        Field.nullable Field.text (addressFor isDirectory address))
      |>.field (Field.optional members "size" Field.whole)
      |>.field (Field.optional members "sha" Field.text)

/-! ## Writing -/

/-- A whole number or null. -/
def sizeJson : Option Int → Json
  | some n => .int n
  | none => .null

/-- An entry for the contents interface. -/
def toContents (entry : Entry) : Json :=
  .ofMembers [("name", .ofString entry.name), ("path", .ofString entry.path), ("sha", .ofOption entry.sha),
    ("size", sizeJson entry.size), ("download_url", .ofOption entry.downloadUrl),
    ("type", .ofString (if entry.isDirectory then "dir" else "file"))]

/-- An entry in the form of its own. -/
def toJson (entry : Entry) : Json :=
  .ofMembers [("name", .ofString entry.name), ("path", .ofString entry.path), ("kind", .ofString entry.kind.name),
    ("download_url", .ofOption entry.downloadUrl), ("size", sizeJson entry.size), ("sha", .ofOption entry.sha)]

end Entry

end Showcase
