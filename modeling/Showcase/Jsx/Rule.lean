import Showcase.Failure
import Showcase.Pattern.Search

/-!
# Rules of conversion

Component markup becomes a template by rules, each of which replaces every match of one pattern. Names of attributes and
tags are replaced by those of HTML, what only a running component needs is dropped, and an expression that is a name or
a property becomes a placeholder.
-/

namespace Showcase.Jsx

open Pattern

/-- A rule: what it looks for and what it writes in its place. -/
structure Rule where
  name : String
  pattern : Pattern
  replacement : Match → List Char

/-- Replace every match in a text. -/
def Rule.apply (rule : Rule) (text : List Char) : List Char := rule.pattern.replaceAll rule.replacement text

/-! ## Parts of rules -/

/-- Elements that have no end tag. -/
def voidElements : List String :=
  ["area", "base", "br", "col", "embed", "hr", "img", "input", "link", "meta", "source", "track", "wbr"]

/-- A name between double braces. -/
def placeholder (name : List Char) : List Char := '\x7b' :: '\x7b' :: name ++ ['\x7d', '\x7d']

/-- A text between double quotes. -/
def inQuotes (text : List Char) : List Char := '"' :: text ++ ['"']

/-- A string in single quotes or in double quotes, without quotes of either kind inside; its text is captured. -/
def stringLiteral : Pattern :=
  either (sequence [char '\'', capture 1 (many (outside "'\"") 0), char '\''])
    (sequence [char '"', capture 1 (many (outside "'\"") 0), char '"'])

/-- An opening brace that does not follow one. -/
def loneOpening : Pattern := seq (notAfter (· == '\x7b')) (char '\x7b')

/-- A closing brace that is not followed by one. -/
def loneClosing : Pattern := seq (char '\x7d') (notBefore (· == '\x7d'))

/-- A self-closed tag written as HTML: a void element loses the slash, any other gets an end tag. -/
def expandSelfClosed (tag attributes : List Char) : List Char :=
  let start := '<' :: tag ++ Text.trimEnd attributes ++ ['>']
  if voidElements.any fun name => name.toList == Text.lower tag then start
  else start ++ '<' :: '/' :: tag ++ ['>']

/-- A name, or a name and a property joined by an underscore. -/
def joinedName (name : List Char) (property? : Option (List Char)) : List Char :=
  match property? with
  | some property => name ++ '_' :: property
  | none => name

/-! ## The rules -/

/-- `className` becomes `class`. -/
def classAttribute : Rule :=
  ⟨"class-attribute", seq wordEdge (literal "className="), fun _ => "class=".toList⟩

/-- `htmlFor` becomes `for`. -/
def labelTargetAttribute : Rule :=
  ⟨"label-target-attribute", seq wordEdge (literal "htmlFor="), fun _ => "for=".toList⟩

/-- The start tag of an animated element becomes that of the plain element. -/
def motionOpenTag : Rule :=
  ⟨"motion-open-tag", seq (literal "<motion.") (capture 1 word), fun found => '<' :: found.captured 1⟩

/-- The end tag of an animated element becomes that of the plain element. -/
def motionCloseTag : Rule :=
  ⟨"motion-close-tag", seq (literal "</motion.") (capture 1 word), fun found => '<' :: '/' :: found.captured 1⟩

/-- The start tag of a presence wrapper is dropped. -/
def animatePresenceOpen : Rule :=
  ⟨"animate-presence-open", sequence [literal "<AnimatePresence", wordEdge, many (outside ">") 0, char '>'],
    fun _ => []⟩

/-- The end tag of a presence wrapper is dropped. -/
def animatePresenceClose : Rule :=
  ⟨"animate-presence-close", literal "</AnimatePresence>", fun _ => []⟩

/-- Event handlers are dropped. -/
def eventHandlers : Rule :=
  ⟨"event-handlers", sequence [someBlanks, literal "on", one Text.isCapital, many Text.isWord 0, char '=',
    char '\x7b', many (· != '\x7d') 0, many (· == '\x7d') 1], fun _ => []⟩

/-- References are dropped. -/
def refAttributes : Rule :=
  ⟨"ref-attributes", sequence [someBlanks, literal "ref=", char '\x7b', many (· != '\x7d') 0, char '\x7d'],
    fun _ => []⟩

/-- An attribute with a template literal gets it as its plain value. -/
def templateLiteralAttributes : Rule :=
  ⟨"template-literal-attributes", sequence [char '=', char '\x7b', char '\x60',
    capture 1 (many (outside "\x60\"") 0), char '\x60', char '\x7d'], fun found => '=' :: inQuotes (found.captured 1)⟩

/-- An attribute with a string in braces gets it as its plain value. -/
def stringLiteralAttributes : Rule :=
  ⟨"string-literal-attributes", sequence [char '=', char '\x7b', stringLiteral, char '\x7d'],
    fun found => '=' :: inQuotes (found.captured 1)⟩

/-- A string in braces becomes its text. -/
def stringLiteralText : Rule :=
  ⟨"string-literal-text", sequence [char '\x7b', stringLiteral, char '\x7d'], fun found => found.captured 1⟩

/-- A self-closed tag is expanded. -/
def selfClosingTags : Rule :=
  ⟨"self-closing-tags",
    sequence [char '<', capture 1 (seq (one Text.isLetter) (many (fun c => Text.isWord c || c == '.' || c == '-') 0)),
      capture 2 (optional (seq someBlanks (few (outside "<>") 0))), blanks, literal "/>"],
    fun found => expandSelfClosed (found.captured 1) (found.captured 2)⟩

/-- An attribute whose value is a name or a property gets a placeholder as its value. -/
def attributeExpressions : Rule :=
  ⟨"attribute-expressions",
    sequence [char '=', char '\x7b', blanks, capture 1 word, optional (seq (char '.') (capture 2 word)), blanks,
      char '\x7d'],
    fun found => '=' :: inQuotes (placeholder (joinedName (found.captured 1) (found.captured? 2)))⟩

/-- A property in single braces becomes a placeholder. -/
def nestedPropertyPlaceholders : Rule :=
  ⟨"nested-property-placeholders",
    sequence [loneOpening, blanks, capture 1 word, char '.', capture 2 word, blanks, loneClosing],
    fun found => placeholder (joinedName (found.captured 1) (found.captured? 2))⟩

/-- A name in single braces becomes a placeholder. -/
def identifierPlaceholders : Rule :=
  ⟨"identifier-placeholders", sequence [loneOpening, blanks, capture 1 word, blanks, loneClosing],
    fun found => placeholder (found.captured 1)⟩

/-- All rules, in the order in which they are applied. -/
def rules : List Rule :=
  [classAttribute, labelTargetAttribute, motionOpenTag, motionCloseTag, animatePresenceOpen, animatePresenceClose,
    eventHandlers, refAttributes, templateLiteralAttributes, stringLiteralAttributes, stringLiteralText,
    selfClosingTags, attributeExpressions, nestedPropertyPlaceholders, identifierPlaceholders]

/-- The rule of a name. -/
def ruleNamed (name : String) : Fallible Rule :=
  match rules.find? fun rule => rule.name == name with
  | some rule => .ok rule
  | none => .error (.unknownKey name)

/-- Apply rules one after the other and drop outer blanks. -/
def applyRules (chosen : List Rule) (markup : String) : String :=
  String.ofList (Text.trim (chosen.foldl (fun text rule => rule.apply text) markup.toList))

end Showcase.Jsx
