import Showcase.Bindings
import Showcase.Failure
import Showcase.Pattern.AnyCase
import Showcase.Pattern.Search
import Showcase.Template.Label

/-!
# Variables of a source

A source without placeholders still shows what could be edited: the words of a small vocabulary, wherever one of them
stands as a whole word in any letter case. A word found is looked up by its lower case. Two small letters outside ASCII
and the dotted capital I match letters of the vocabulary without having them as their lower case, and a word spelt with
one of them has no entry.
-/

namespace Showcase.Variables

/-- The words that make good variables, in their canonical spelling. -/
def vocabulary : List String :=
  ["title", "heading", "description", "text", "label", "buttonText", "subtitle", "name"]

/-- The variables of a source in which no word of the vocabulary occurs. -/
def standard : List String := ["title", "description"]

/-- A whole word of the vocabulary. -/
def vocabularyWord : Pattern :=
  Pattern.sequence [.wordEdge, Pattern.choice (vocabulary.map Pattern.anyCase), .wordEdge]

/-- The canonical spelling of a word found. -/
def canonical (found : List Char) : Fallible String :=
  match vocabulary.find? fun word => Text.lower word.toList == Text.lower found with
  | some word => .ok word
  | none => .error (.unknownKey (String.ofList (Text.lower found)))

/-- The canonical spellings of the words of the vocabulary in a source, one for each occurrence. -/
def words (source : String) : Fallible (List String) :=
  (vocabularyWord.findAll source.toList).mapM fun found => canonical found.text

/-- The bindings followed by those words that they lack, each once with its label. -/
def extend (bindings : Bindings) (names : List String) : Bindings :=
  names.foldl (fun found name => found.putNew name (label name)) bindings

/-- The variables of a source: the words of the vocabulary in it, or the standard ones. -/
def ofSource (source : String) : Fallible Bindings := do
  let found ← words source
  pure (extend [] (if found.isEmpty then standard else found))

end Showcase.Variables
