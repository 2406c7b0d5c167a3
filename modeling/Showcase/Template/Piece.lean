import Showcase.Text.Basic

/-!
# The pieces of a template

A template is text with placeholders: two opening braces, a name, two closing braces. Reading from the left, a
placeholder begins at the first pair of opening braces whose body, a non-empty stretch without closing braces, is
followed by a pair of closing braces. All else is letters. Writing the pieces in order gives the template back.
-/

namespace Showcase.Template

/-- A character that belongs to no placeholder, or a placeholder with the text between its braces. -/
inductive Piece where
  | letter (c : Char)
  | placeholder (body : List Char)
deriving DecidableEq, Repr

/-- The text of a piece, as it stands in the template. -/
def Piece.text : Piece → List Char
  | .letter c => [c]
  | .placeholder body => '{' :: '{' :: body ++ ['}', '}']

/-- The body of the placeholder that the text begins with. -/
def placeholderAt? : List Char → Option (List Char)
  | '{' :: '{' :: rest =>
    let body := rest.takeWhile (· != '}')
    if body.isEmpty then none
    else
      match rest.dropWhile (· != '}') with
      | '}' :: '}' :: _ => some body
      | _ => none
  | _ => none

/-- The pieces of a text after its first `taken` characters, which belong to a placeholder already read. -/
def piecesFrom : (taken : Nat) → List Char → List Piece
  | _, [] => []
  | taken + 1, _ :: rest => piecesFrom taken rest
  | 0, c :: rest =>
    match placeholderAt? (c :: rest) with
    | some body => .placeholder body :: piecesFrom (body.length + 3) rest
    | none => .letter c :: piecesFrom 0 rest

/-- The pieces of a template. -/
def pieces (template : List Char) : List Piece := piecesFrom 0 template

/-- The name that a placeholder's body stands for: the body without outer blanks. -/
def nameOf (body : List Char) : String := String.ofList (Text.trim body)

end Showcase.Template
