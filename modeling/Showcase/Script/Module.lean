import Showcase.Pattern.Search

/-!
# Module syntax

A component source runs as plain code, with everything that it would import supplied from outside. Its import
statements, its default export of a name and its export lists are whole lines and are removed; in front of a declaration
only the words that export it are.
-/

namespace Showcase.Script

open Pattern

/-- Spaces and tabs. -/
def isIndent (c : Char) : Bool := c == ' ' || c == '\t'

/-- Any spaces and tabs. -/
def indent : Pattern := many isIndent 0

/-- Characters that may begin an identifier, of ASCII. -/
def isNameStart (c : Char) : Bool := Text.isLetter c || c == '_' || c == '$'

/-- Characters that an identifier may go on with. -/
def isNamePart (c : Char) : Bool := Text.isWord c || c == '$'

/-- An identifier. -/
def identifier : Pattern := seq (one isNameStart) (many isNamePart 0)

/-- Single and double quotes. -/
def isStringQuote (c : Char) : Bool := c == '\'' || c == '"'

/-- The name of a module between quotes, an optional semicolon, and nothing else on the line. -/
def moduleName : List Pattern :=
  [one isStringQuote, many (outside "'\"") 1, one isStringQuote, optional (char ';'), indent, lineEnd]

/-- An import for its effect alone. -/
def bareImport : Pattern :=
  sequence ([lineStart, indent, literal "import", someBlanks] ++ moduleName)

/-- An import of names. -/
def namedImport : Pattern :=
  sequence ([lineStart, indent, literal "import", someBlanks, optional (seq (literal "type") someBlanks),
    few (outside ";'\"") 0, wordEdge, literal "from", blanks] ++ moduleName)

/-- An import statement on lines of its own. -/
def importStatement : Pattern := either bareImport namedImport

/-- The default export of a name. -/
def defaultExport : Pattern :=
  sequence [lineStart, indent, literal "export", someBlanks, literal "default", someBlanks, identifier, blanks,
    optional (char ';'), indent, lineEnd]

/-- A list of exported names. -/
def exportList : Pattern :=
  sequence [lineStart, indent, literal "export", blanks, char '{', many (· != '}') 0, char '}', blanks,
    optional (char ';'), indent, lineEnd]

/-- The beginning of a declaration. -/
def declaration : Pattern :=
  choice [sequence [optional (seq (literal "async") someBlanks), literal "function", wordEdge],
    seq (literal "const") wordEdge, seq (literal "let") wordEdge, seq (literal "var") wordEdge,
    seq (literal "class") wordEdge]

/-- The words that export the declaration after them; the indentation before them is captured. -/
def exportKeyword : Pattern :=
  sequence [lineStart, capture 1 indent, literal "export", someBlanks, optional (seq (literal "default") someBlanks),
    ahead declaration]

/-- The code of a source without module syntax and outer blanks. -/
def withoutModuleSyntax (source : String) : String :=
  let bare := importStatement.replaceAll (fun _ => []) source.toList
  let bare := defaultExport.replaceAll (fun _ => []) bare
  let bare := exportList.replaceAll (fun _ => []) bare
  let bare := exportKeyword.replaceAll (fun found => found.captured 1) bare
  String.ofList (Text.trim bare)

end Showcase.Script
