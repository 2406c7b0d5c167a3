import Showcase.Bindings
import Showcase.Html.Lexer

/-!
# The tree of markup

Tokens become a tree. A start tag opens an element inside the innermost open one, and nothing is closed by implication:
an end tag closes the innermost open element of its name with all inside it, and does nothing if there is none. A void
element is closed at once; a later end of that name is then taken for its own. Neighbouring texts are one text, and a
text of blanks is one newline or one space, except where blanks matter.
-/

namespace Showcase.Html

/-- A node of a tree. -/
inductive Node where
  | element (name : String) (attributes : List Attribute) (children : List Node)
  | text (s : String)
  | comment (s : String)
  | doctype (s : String)
  | cdata (s : String)
  | declaration (s : String)
  | instruction (s : String)

/-! ## Properties of elements -/

/-- Elements without contents. -/
def voidElements : List String :=
  ["area", "base", "br", "col", "embed", "hr", "img", "input", "keygen", "link", "menuitem", "meta", "param", "source",
    "track", "wbr", "basefont", "bgsound", "command", "frame", "image", "isindex", "nextid", "spacer"]

/-- Elements in which blanks matter. -/
def blankKeepers : List String := ["pre", "textarea"]

/-- Attributes of every element that hold a list of words. -/
def wordListAttributes : List String := ["class", "accesskey", "dropzone"]

/-- Attributes of particular elements that hold a list of words. -/
def elementWordLists : List (String × List String) :=
  [("a", ["rel", "rev"]), ("link", ["rel", "rev"]), ("td", ["headers"]), ("th", ["headers"]),
    ("form", ["accept-charset"]), ("object", ["archive"]), ("area", ["rel"]), ("icon", ["sizes"]),
    ("iframe", ["sandbox"]), ("output", ["for"])]

/-- Whether an attribute of an element holds a list of words. -/
def isWordList (element entry : String) : Bool :=
  wordListAttributes.contains entry || ((elementWordLists.lookup element).getD []).contains entry

/-- The words of a text, one space between them. -/
def spacedWords (s : String) : String :=
  let words := (Text.splitAtChar ' ' (s.toList.map fun c => if Text.isBlank c then ' ' else c)).filter (!·.isEmpty)
  " ".intercalate (words.map String.ofList)

/-- Attributes as an element keeps them: of repeated ones the last value counts, and lists of words are spaced. -/
def keptAttributes (element : String) (attributes : List Attribute) : List Attribute :=
  (attributes.foldl (fun (kept : Bindings) entry => kept.put entry.1 entry.2) []).map fun entry =>
    if isWordList element entry.1 then (entry.1, spacedWords entry.2) else entry

/-! ## Building -/

/-- An open element with the children it has so far, latest first. -/
structure OpenElement where
  name : String
  attributes : List Attribute
  children : List Node

/-- The element that an open one becomes. -/
def OpenElement.close (element : OpenElement) : Node :=
  .element element.name element.attributes element.children.reverse

/-- A tree being built: open elements, innermost first; the top nodes so far, latest first; text that is not a node yet;
and the void elements whose end tag may still come. -/
structure Builder where
  opened : List OpenElement
  top : List Node
  pending : Option (List Char)
  ended : List String

namespace Builder

/-- Nothing built yet. -/
def empty : Builder := ⟨[], [], none, []⟩

/-- Add a node to the innermost open element. -/
def add (builder : Builder) (node : Node) : Builder :=
  match builder.opened with
  | [] => { builder with top := node :: builder.top }
  | inner :: outer => { builder with opened := { inner with children := node :: inner.children } :: outer }

/-- Whether a character is a blank of ASCII. -/
def isPlainBlank (c : Char) : Bool := c == ' ' || c == '\n' || c == '\t' || c.toNat == 12 || c == '\r'

/-- A text as a node keeps it: blanks alone are one newline or one space, unless blanks matter. -/
def keptText (builder : Builder) (s : List Char) : String :=
  if s.all isPlainBlank && !builder.opened.any fun element => blankKeepers.contains element.name then
    (if s.contains '\n' then "\n" else " ")
  else String.ofList s

/-- Make a node of the pending text. -/
def flush (builder : Builder) : Builder :=
  match builder.pending with
  | none => builder
  | some s => { builder with pending := none }.add (.text (builder.keptText s))

/-- Add a node with a text of its own. -/
def addSpecial (builder : Builder) (make : String → Node) (s : List Char) : Builder :=
  let flushed := builder.flush
  flushed.add (make (flushed.keptText s))

/-- Close the innermost open element. -/
def closeInnermost (builder : Builder) : Builder :=
  match builder.opened with
  | [] => builder
  | inner :: outer => { builder with opened := outer }.add inner.close

/-- Close open elements, `count` of them. -/
def closeMany : (count : Nat) → Builder → Builder
  | 0, builder => builder
  | count + 1, builder => closeMany count builder.closeInnermost

/-- Close the innermost open element of a name, with all inside it. -/
def closeNamed (builder : Builder) (name : String) : Builder :=
  let flushed := builder.flush
  match flushed.opened.findIdx? fun element => element.name == name with
  | some index => closeMany (index + 1) flushed
  | none => flushed

/-- Open an element. -/
def openElement (builder : Builder) (name : String) (attributes : List Attribute) : Builder :=
  let flushed := builder.flush
  { flushed with opened := ⟨name, keptAttributes name attributes, []⟩ :: flushed.opened }

/-- Take an end tag: it may be that of a void element that is closed already. -/
def endTag (builder : Builder) (name : String) : Builder :=
  if builder.ended.contains name then { builder with ended := builder.ended.erase name } else builder.closeNamed name

/-- Take a token. -/
def take (builder : Builder) : Token → Builder
  | .text s => { builder with pending := some (builder.pending.getD [] ++ s) }
  | .startTag name attributes true => (builder.openElement name attributes).endTag name
  | .startTag name attributes false =>
    let opened := builder.openElement name attributes
    if voidElements.contains name then
      { opened.closeNamed name with ended := opened.ended ++ [name] }
    else opened
  | .endTag name => builder.endTag name
  | .comment s => builder.addSpecial .comment s
  | .doctype s => builder.addSpecial .doctype s
  | .cdata s => builder.addSpecial .cdata s
  | .declaration s => builder.addSpecial .declaration s
  | .instruction s => builder.addSpecial .instruction s

/-- The nodes that were built, with everything closed. -/
def finish (builder : Builder) : List Node :=
  let flushed := builder.flush
  (closeMany flushed.opened.length flushed).top.reverse

end Builder

/-- The nodes of a text. -/
def nodes (text : String) : Except String (List Node) :=
  (tokens text.toList).map fun found => (found.foldl Builder.take Builder.empty).finish

end Showcase.Html
