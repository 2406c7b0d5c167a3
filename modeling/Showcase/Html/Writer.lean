import Showcase.Html.Tree

/-!
# Writing a tree

Nodes are written as markup. Ampersands and angle brackets are escaped in texts and attributes, except in scripts and
styles. Attributes are in alphabetical order; a value stands between double quotes, or between single quotes when it has
a double quote in it and no single quote. An encoding that is declared is declared as UTF-8.
-/

namespace Showcase.Html

/-! ## Texts and attributes -/

/-- A text with the characters of markup escaped. -/
def escapeMarkup (s : String) : String :=
  String.ofList (s.toList.flatMap fun c =>
    if c == '&' then "&amp;".toList else if c == '<' then "&lt;".toList else if c == '>' then "&gt;".toList else [c])

/-- A value between quotes. -/
def quotedValue (s : String) : String :=
  if !s.toList.contains '"' then "\"" ++ s ++ "\""
  else if !s.toList.contains '\'' then "'" ++ s ++ "'"
  else "\"" ++ String.ofList (Text.replaceChar '"' "&quot;".toList s.toList) ++ "\""

/-- The encoding that written markup declares. -/
def writtenEncoding : String := "utf-8"

/-- The declaration of an encoding in a content type; what comes before it is captured. -/
def charsetPattern : Pattern :=
  .sequence [.capture 1 (.seq (.either .lineStart (.one fun c => Text.isBlank c || c == ';')) (.literal "charset=")),
    .many (· != ';') 0]

/-- Attributes with a declared encoding replaced. -/
def withWrittenEncoding (element : String) (attributes : Bindings) : Bindings :=
  if element != "meta" then attributes
  else if attributes.has "charset" then attributes.put "charset" writtenEncoding
  else
    match attributes.get? "content", attributes.get? "http-equiv" with
    | some content, some kind =>
      if lowercase kind == "content-type" then
        attributes.put "content" (String.ofList (charsetPattern.replaceAll
          (fun found => found.captured 1 ++ writtenEncoding.toList) content.toList))
      else attributes
    | _, _ => attributes

/-- Enter an attribute among others in alphabetical order. -/
def insertAttribute (entry : Attribute) : List Attribute → List Attribute
  | [] => [entry]
  | first :: others =>
    if entry.1 < first.1 then entry :: first :: others else first :: insertAttribute entry others

/-- Attributes as they are written in a start tag. -/
def writeAttributes (element : String) (attributes : List Attribute) : String :=
  let sorted := (withWrittenEncoding element attributes).foldl (fun sorted entry => insertAttribute entry sorted) []
  "".intercalate (sorted.map fun entry => " " ++ entry.1 ++ "=" ++ quotedValue (escapeMarkup entry.2))

/-! ## Nodes -/

mutual

/-- A node inside an element as markup; `raw` tells that texts are written as they are. -/
def writeNode (raw : Bool) : Node → String
  | .element name attributes children =>
    if children.isEmpty && voidElements.contains name then "<" ++ name ++ writeAttributes name attributes ++ "/>"
    else
      "<" ++ name ++ writeAttributes name attributes ++ ">" ++ writeNodes (rawElements.contains name) children
        ++ "</" ++ name ++ ">"
  | .text s => if raw then s else escapeMarkup s
  | .comment s => "<!--" ++ s ++ "-->"
  | .doctype s => "<!DOCTYPE " ++ s ++ ">\n"
  | .cdata s => "<![CDATA[" ++ s ++ "]]>"
  | .declaration s => "<?" ++ s ++ "?>"
  | .instruction s => "<?" ++ s ++ ">"

/-- Nodes as markup, in order. -/
def writeNodes (raw : Bool) : List Node → String
  | [] => ""
  | node :: others => writeNode raw node ++ writeNodes raw others

end

end Showcase.Html
