import Showcase.Variables.Vocabulary

/-!
# Variables of an upload

An uploaded source carries its own copy: the texts of the first entry of an array of slides, and constants that hold a
text. They become variables with that text. The properties of the slide come first; a repeated property keeps its place
and takes its last value, and a constant adds only a name that is not there yet.
-/

namespace Showcase.Variables

open Pattern

/-- The three quotes of a source. -/
def isQuote (c : Char) : Bool := c == '\'' || c == '"' || c.toNat == 0x60

/-- A text between quotes, captured under a number; it holds no quote of any kind. -/
def quotedText (number : Nat) : Pattern :=
  sequence [one isQuote, capture number (many (fun c => !isQuote c) 1), one isQuote]

/-- The array of slides; its items are captured. -/
def slidesArray : Pattern :=
  sequence [literal "const", someBlanks, literal "slides", many (outside "=") 0, char '=', blanks, char '[',
    capture 1 (few (fun _ => true) 0), literal "];"]

/-- An entry of the array with a number as its id; what follows the id is captured. -/
def numberedEntry : Pattern :=
  sequence [char '\x7b', blanks, literal "id:", blanks, many Text.isDecimal 1, optional (char ','), blanks,
    capture 1 (few (fun _ => true) 0), char '\x7d']

/-- A property that holds a text: its name and the text. -/
def textProperty : Pattern := sequence [capture 1 word, char ':', blanks, quotedText 2]

/-- A constant that holds a text: its name and the text. -/
def textConstant : Pattern :=
  sequence [literal "const", someBlanks, capture 1 word, blanks, char '=', blanks, quotedText 2]

/-- Constants with these names name components. -/
def componentNames : List String := ["Hero", "Component", "App"]

/-- Name and text of a property or constant found. -/
def nameAndText (found : Match) : String × String :=
  (String.ofList (found.captured 1), String.ofList (found.captured 2))

/-- The text properties of the first entry of the array of slides. -/
def slideProperties (source : List Char) : List (String × String) :=
  match slidesArray.find? source with
  | none => []
  | some array =>
    match numberedEntry.find? (array.captured 1) with
    | none => []
    | some entry => (textProperty.findAll (entry.captured 1)).map nameAndText

/-- The constants that hold a text, without those that name a component. -/
def textConstants (source : List Char) : List (String × String) :=
  ((textConstant.findAll source).map nameAndText).filter fun constant => !componentNames.contains constant.1

/-- The texts that a source carries, by name. -/
def ofContent (source : String) : Bindings :=
  let slide := (slideProperties source.toList).foldl (fun (found : Bindings) entry => found.put entry.1 entry.2) []
  (textConstants source.toList).foldl (fun (found : Bindings) entry => found.putNew entry.1 entry.2) slide

/-- The variables of an uploaded source: the texts it carries and then the words of the vocabulary that these leave
out; without such texts the variables of any source. -/
def ofUpload (source : String) : Fallible Bindings :=
  let carried := ofContent source
  if carried.isEmpty then ofSource source
  else do
    let found ← words source
    pure (extend carried found)

end Showcase.Variables
