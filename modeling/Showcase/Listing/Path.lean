import Showcase.Text.Basic

/-!
# Paths in a repository

A path is joined from two parts by a slash. Blanks and slashes around a part do not count, and an empty part stands for
the root.
-/

namespace Showcase.Listing

/-- A part of a path without outer blanks and then without outer slashes. -/
def pathPart (s : String) : String := withoutOuterSlashes (trimmed s)

/-- Two parts of a path as one path. -/
def joinPath (base sub : String) : String :=
  if (pathPart base).isEmpty then pathPart sub
  else if (pathPart sub).isEmpty then pathPart base
  else pathPart base ++ "/" ++ pathPart sub

end Showcase.Listing
