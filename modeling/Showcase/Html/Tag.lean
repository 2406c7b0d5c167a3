import Showcase.Html.Reference
import Showcase.Text.Basic

/-!
# Start tags

A start tag is an angle bracket, a name, attributes, and an angle bracket at its end, perhaps after a slash. Between
attributes there may be blanks and slashes; an attribute has to follow a blank, a slash or a quote. A value stands in
quotes or goes on up to a blank or the end of the tag. A quote that is never closed begins no value.
-/

namespace Showcase.Html

/-- A name and a value; a value that is missing is empty. -/
abbrev Attribute := String × String

/-- A place in a tag: the character before it and the text from there on. -/
structure TagPlace where
  before : Char
  rest : List Char

/-! ## Names and gaps -/

/-- Whether a character ends the name of a tag. -/
def endsTagName (c : Char) : Bool :=
  c == '\t' || c == '\n' || c == '\r' || c.toNat == 12 || c == ' ' || c == '/' || c == '>' || c.toNat == 0

/-- Whether an attribute's name may begin with a character. -/
def startsAttribute (c : Char) : Bool := !Text.isBlank c && c != '/' && c != '>'

/-- Whether an attribute's name may go on with a character. -/
def continuesAttribute (c : Char) : Bool := startsAttribute c && c != '='

/-- Whether an attribute may follow a character. -/
def allowsAttribute (c : Char) : Bool := c == '\'' || c == '"' || c == '/' || Text.isBlank c

/-- The place after blanks and slashes; a slash before the end of the tag stays. -/
def skipGap : (before : Char) → List Char → TagPlace
  | before, [] => ⟨before, []⟩
  | before, c :: rest =>
    if Text.isBlank c || (c == '/' && rest.head? != some '>') then skipGap c rest else ⟨before, c :: rest⟩

/-! ## Values -/

/-- A value up to a blank or the end of the tag, and the text after it. -/
def bareValue (text : List Char) : List Char × List Char :=
  let inValue (c : Char) : Bool := c != '>' && !Text.isBlank c
  (text.takeWhile inValue, text.dropWhile inValue)

/-- The value after an equals sign and the place after it. A quote without its partner begins no value: the value is
empty if a blank stands before the quote, and begins with an equals sign if there is more than one. -/
def valueAt? (text : List Char) : Option (List Char × TagPlace) :=
  let fromSign := text.dropWhile Text.isBlank
  let afterSigns := fromSign.dropWhile (· == '=')
  let value := afterSigns.dropWhile Text.isBlank
  let bare (taken : List Char × List Char) (before : Char) : List Char × TagPlace :=
    (taken.1, ⟨taken.1.getLast?.getD before, taken.2⟩)
  let blankBefore : Char := if afterSigns.head?.any Text.isBlank then ' ' else '='
  if fromSign.head? != some '=' then none
  else
    match value with
    | quote :: rest =>
      if quote == '\'' || quote == '"' then
        match Text.cutAtFirst quote rest with
        | (quoted, some after) => some (quoted, ⟨quote, after⟩)
        | (_, none) =>
          if afterSigns.head?.any Text.isBlank then some ([], ⟨' ', value⟩)
          else if (fromSign.drop 1).head? == some '=' then some (bare (bareValue ('=' :: value)) '=')
          else none
      else some (bare (bareValue value) blankBefore)
    | [] => some ([], ⟨blankBefore, []⟩)

/-! ## Attributes -/

/-- The attribute at a place, its value as it is written, and the place after it and its gap. -/
def attributeAt? (place : TagPlace) : Option (Attribute × TagPlace) :=
  match place.rest with
  | [] => none
  | c :: rest =>
    if allowsAttribute place.before && startsAttribute c then
      let name := c :: rest.takeWhile continuesAttribute
      let after := rest.dropWhile continuesAttribute
      let written := String.ofList (Text.lower name)
      match valueAt? after with
      | some (value, next) => some ((written, String.ofList value), skipGap next.before next.rest)
      | none => some ((written, ""), skipGap (name.getLast?.getD c) after)
    else none

/-- The attributes from a place on, and the place after them. -/
def attributesFrom : (fuel : Nat) → TagPlace → List Attribute × TagPlace
  | 0, place => ([], place)
  | fuel + 1, place =>
    match attributeAt? place with
    | none => ([], place)
    | some (entry, next) =>
      let (others, last) := attributesFrom fuel next
      (entry :: others, last)

/-- An attribute with the references in its value resolved. -/
def resolved (entry : Attribute) : Attribute := (entry.1, String.ofList (resolve entry.2.toList))

/-! ## Tags -/

/-- What a start tag turns out to be. -/
inductive StartTag where
  /-- A tag, whether it closes itself, and the text after it. -/
  | complete (name : String) (attributes : List Attribute) (selfClosed : Bool) (rest : List Char)
  /-- The text ends within the tag. -/
  | incomplete
  /-- No tag after all; the text at the place where that shows. -/
  | broken (rest : List Char)
  /-- A value has a number of so many digits that it cannot be read. -/
  | overlong (digits : Nat)

/-- The start tag after its angle bracket; the text begins with a letter. -/
def startTag (text : List Char) : StartTag :=
  let name := text.takeWhile fun c => !endsTagName c
  let gap := skipGap (name.getLast?.getD '<') (text.dropWhile fun c => !endsTagName c)
  let (attributes, last) := attributesFrom text.length gap
  let written := String.ofList (Text.lower name)
  -- values are read when the end of the tag has been found
  let ifReadable (tag : StartTag) : StartTag :=
    ((attributes.findSome? fun entry => firstOverlong? entry.2.toList).map StartTag.overlong).getD tag
  match last.rest with
  | [] => .incomplete
  | '>' :: rest => ifReadable (.complete written (attributes.map resolved) false rest)
  | '/' :: '>' :: rest => ifReadable (.complete written (attributes.map resolved) true rest)
  | c :: rest => if Text.isLetter c || c == '=' || c == '/' then .incomplete else ifReadable (.broken (c :: rest))

end Showcase.Html
