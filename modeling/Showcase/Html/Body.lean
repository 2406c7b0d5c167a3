import Showcase.Failure
import Showcase.Html.Writer

/-!
# The body of a document

A template may be a whole document. It is reduced to the contents of its body, and the styles of the document, wherever
they stand, are taken out as one style sheet. A text without a body stays as it is.
-/

namespace Showcase.Html

/-! ## Finding -/

mutual

/-- The contents of the first element of a name in a node, the node itself before its children. -/
def findIn (name : String) : Node → Option (List Node)
  | .element known _ children => if known == name then some children else findAmong name children
  | _ => none

/-- The contents of the first element of a name among nodes. -/
def findAmong (name : String) : List Node → Option (List Node)
  | [] => none
  | node :: others =>
    match findIn name node with
    | some children => some children
    | none => findAmong name others

end

/-- The text of a node itself. -/
def textOf : Node → String
  | .text s => s
  | _ => ""

mutual

/-- The texts of the styles in a node, in order. -/
def stylesIn : Node → List String
  | .element name _ children =>
    (if name == "style" then ["".intercalate (children.map textOf)] else []) ++ stylesAmong children
  | _ => []

/-- The texts of the styles among nodes, in order. -/
def stylesAmong : List Node → List String
  | [] => []
  | node :: others => stylesIn node ++ stylesAmong others

end

/-! ## Removing -/

/-- Whether a node is a style. -/
def isStyle : Node → Bool
  | .element name _ _ => name == "style"
  | _ => false

mutual

/-- A node without the styles inside it. -/
def withoutStylesIn : Node → Node
  | .element name attributes children => .element name attributes (withoutStyles children)
  | other => other

/-- Nodes without styles. -/
def withoutStyles : List Node → List Node
  | [] => []
  | node :: others => if isStyle node then withoutStyles others else withoutStylesIn node :: withoutStyles others

end

/-! ## Splitting -/

/-- What stands before the reason when markup is rejected. -/
def rejection : String :=
  "The markup you provided was rejected by the parser. Trying a different parser or a different encoding may help.\n\n"
    ++ "Original error(s) from parser:\n "

/-- The body of a document and its styles as one style sheet; a text without a body stays as it is. -/
def splitBody (html : String) : Fallible (String × String) :=
  if !Text.occursIn "<body".toList (Text.lower html.toList) then .ok (html, "")
  else
    match nodes html with
    | .error reason => .error (.rejectedMarkup (rejection ++ reason))
    | .ok found =>
      match findAmong "body" found with
      | none => .ok (html, "")
      | some children =>
        .ok (writeNodes false (withoutStyles children), "\n".intercalate (stylesAmong found))

end Showcase.Html
