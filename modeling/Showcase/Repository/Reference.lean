import Showcase.Text.Basic

/-!
# References to a repository

A repository is named by its address on the host, anywhere in a text, or by the shorthand of owner and repository with a
slash between them. Anything else names none.
-/

namespace Showcase.Repository

/-- A repository and who owns it. -/
structure Reference where
  owner : String
  repo : String
deriving DecidableEq, Repr

namespace Reference

/-- What stands before owner and repository in an address. -/
def host : List Char := "github.com/".toList

/-- Characters of an owner or a repository in an address. -/
def isNameChar (c : Char) : Bool := c != '/' && !Text.isBlank c && c != '?' && c != '#'

/-- Owner and repository at the head of a text, a slash between them. -/
def namesAtHead? (text : List Char) : Option (List Char × List Char) :=
  match text.dropWhile isNameChar with
  | '/' :: rest =>
    if (text.takeWhile isNameChar).isEmpty || (rest.takeWhile isNameChar).isEmpty then none
    else some (text.takeWhile isNameChar, rest.takeWhile isNameChar)
  | _ => none

/-- Owner and repository after the first mention of the host that they follow. -/
def namesInAddress? : List Char → Option (List Char × List Char)
  | [] => none
  | c :: rest =>
    match (host.isPrefixOf? (c :: rest)).bind namesAtHead? with
    | some names => some names
    | none => namesInAddress? rest

/-- A repository's name without the ending of a clone address. -/
def withoutCloneEnding (repo : List Char) : List Char :=
  if ".git".toList.isSuffixOf repo then repo.take (repo.length - 4) else repo

/-- Owner and repository as a shorthand: two parts without blanks, one slash. -/
def shorthand? (text : List Char) : Option (List Char × List Char) :=
  match Text.cutAtFirst '/' text with
  | (owner, some repo) =>
    if owner.isEmpty || repo.isEmpty || text.any Text.isBlank || repo.contains '/' then none else some (owner, repo)
  | (_, none) => none

/-- The repository that a text names. -/
def ofText? (text : String) : Option Reference :=
  let value := Text.trim text.toList
  match namesInAddress? value with
  | some (owner, repo) =>
    if (withoutCloneEnding repo).isEmpty then none
    else some ⟨String.ofList owner, String.ofList (withoutCloneEnding repo)⟩
  | none => (shorthand? value).map fun names => ⟨String.ofList names.1, String.ofList names.2⟩

end Reference

end Showcase.Repository
