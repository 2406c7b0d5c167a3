import Showcase.Html.Tag
import Showcase.Pattern.AnyCase
import Showcase.Pattern.Search

/-!
# The tokens of markup

Markup is read into tags, text, and the rarer comments, declarations and instructions. References in text are resolved.
The contents of scripts and styles are text up to their end tag. What looks like markup and never ends is text; to tell
the two apart the text is gone through twice, the second time, from where the first stopped, in the knowledge that
nothing follows.
-/

namespace Showcase.Html

open Pattern

/-- A piece of markup. -/
inductive Token where
  | text (s : List Char)
  | startTag (name : String) (attributes : List Attribute) (selfClosed : Bool)
  | endTag (name : String)
  | comment (s : List Char)
  | doctype (s : List Char)
  | cdata (s : List Char)
  | declaration (s : List Char)
  | instruction (s : List Char)
deriving DecidableEq, Repr

/-- What comes of reading at a place. -/
inductive Reading where
  /-- Tokens, the element whose raw contents follow, and the rest. -/
  | go (tokens : List Token) (raw : Option String) (rest : List Char)
  /-- Tokens after which the pass stops, and the rest. -/
  | stop (tokens : List Token) (rest : List Char)
  /-- The text ends within something. -/
  | incomplete
  /-- The markup cannot be read at all. -/
  | rejected (message : String)

/-! ## Parts -/

/-- The text before the first match of a pattern, and the text after the match. -/
def cutAtPattern? (pattern : Pattern) (text : List Char) : Option (List Char × List Char) :=
  (pattern.find? text).map fun found =>
    (text.take (text.length - found.span.start.length), found.span.start.drop found.span.length)

/-- What comes of reading up to a closing angle bracket, if there is one. -/
def upToBracket (make : List Char → Token) (text : List Char) : Reading :=
  match Text.cutAtFirst '>' text with
  | (inside, some rest) => .go [make inside] none rest
  | (_, none) => .incomplete

/-- The end of a comment. -/
def commentEnd : Pattern := sequence [literal "--", blanks, char '>']

/-- The name of a marked section, with the blanks after it. -/
def sectionName : Pattern :=
  sequence [capture 1 (seq (one Text.isLetter)
    (many (fun c => Text.isLetter c || Text.isDigit c || c == '-' || c == '_' || c == '.') 0)), blanks]

/-- The end of a standard marked section. -/
def sectionEnd : Pattern := sequence [char ']', blanks, char ']', blanks, char '>']

/-- The end of a conditional section. -/
def conditionEnd : Pattern := sequence [char ']', blanks, char '>']

/-- The token of a marked section. -/
def sectionToken (inside : List Char) : Token :=
  if ((inside.take 6).flatMap Text.upperChar) == "CDATA[".toList then .cdata (inside.drop 6) else .declaration inside

/-- Read a marked section after its opening `<![`; `whole` is the text from the angle bracket on. -/
def readSection (whole text : List Char) : Reading :=
  if text.isEmpty then .incomplete
  else
    match sectionName.matchAt none 0 text with
    | none => .rejected ("expected name token at " ++ displayQuoted (String.ofList (whole.take 20)))
    | some found =>
      let name := String.ofList (Text.lower (found.captured 1))
      let upTo (ending : Pattern) : Reading :=
        match cutAtPattern? ending text with
        | some (inside, rest) => .go [sectionToken inside] none rest
        | none => .incomplete
      if found.span.length == text.length then .incomplete
      else if ["temp", "cdata", "ignore", "include", "rcdata"].contains name then upTo sectionEnd
      else if ["if", "else", "endif"].contains name then upTo conditionEnd
      else
        .rejected ("unknown status keyword " ++ displayQuoted (String.ofList found.text) ++ " in marked section")

/-- Read what begins with `<!`; `text` is what follows. -/
def readDeclaration (text : List Char) : Reading :=
  match text with
  | '-' :: '-' :: rest =>
    match cutAtPattern? commentEnd rest with
    | some (inside, after) => .go [.comment inside] none after
    | none => .incomplete
  | '[' :: rest => readSection ('<' :: '!' :: text) rest
  | _ =>
    if Text.lower (text.take 7) == "doctype".toList then
      match Text.cutAtFirst '>' (text.drop 7) with
      | (inside, some rest) => .go [.doctype (inside.drop 1)] none rest
      | (_, none) => .incomplete
    else upToBracket Token.comment text

/-! ## Tags -/

/-- Elements with raw contents. -/
def rawElements : List String := ["script", "style"]

/-- An end tag in its plain form; the name is captured. -/
def plainEndTag : Pattern :=
  sequence [literal "</", blanks, capture 1 (seq (one Text.isLetter)
    (many (fun c => Text.isLetter c || Text.isDigit c || c == '-' || c == '.' || c == ':' || c == '_') 0)), blanks,
    char '>']

/-- Read an end tag. Where raw contents are read, the end tag of another element is text. -/
def readEndTag (raw : Option String) (text : List Char) : Reading :=
  match Text.cutAtFirst '>' text with
  | (_, none) => .incomplete
  | (before, some rest) =>
    let asText : Reading := .go [.text (before ++ ['>'])] raw rest
    match plainEndTag.matchAt none 0 text with
    | some found =>
      let name := String.ofList (Text.lower (found.captured 1))
      if raw.any (· != name) then asText else .go [.endTag name] none rest
    | none =>
      if raw.isSome then asText
      else
        let named := text.drop 2
        if named.head?.any Text.isLetter then
          .go [.endTag (String.ofList (Text.lower (named.takeWhile fun c => !endsTagName c)))] none rest
        else if named.head? == some '>' then .go [] none (named.drop 1)
        else upToBracket Token.comment named

/-- Read a start tag; `text` begins with its angle bracket. -/
def readStartTag (text : List Char) : Reading :=
  match startTag (text.drop 1) with
  | .complete name attributes selfClosed rest =>
    .go [.startTag name attributes selfClosed] (if !selfClosed && rawElements.contains name then some name else none)
      rest
  | .incomplete => .incomplete
  | .broken rest => .go [.text (text.take (text.length - rest.length))] none rest
  | .overlong digits => .rejected (overlongReason digits)

/-- Read at an angle bracket outside of raw contents. -/
def readMarkup (text : List Char) : Reading :=
  match text with
  | _ :: c :: rest =>
    if Text.isLetter c then readStartTag text
    else if c == '/' then readEndTag none text
    else if c == '?' then upToBracket Token.instruction rest
    else if c == '!' then readDeclaration rest
    else .go [.text ['<']] none (c :: rest)
  | _ => .stop [] text

/-! ## References -/

/-- A reference by number with the character after it; its digits are captured, hexadecimal ones under two. -/
def numericReference : Pattern :=
  sequence [literal "&#", either (capture 1 (many Text.isDigit 1))
    (seq (one fun c => c == 'x' || c == 'X') (capture 2 (many (fun c => (Text.hexValue? c).isSome) 1))),
    one fun c => (Text.hexValue? c).isNone]

/-- A reference by name with the character after it; the name is captured. -/
def namedReference : Pattern :=
  let isLetterOrDigit (c : Char) : Bool := Text.isLetter c || Text.isDigit c
  sequence [char '&', capture 1 (seq (one Text.isLetter)
    (many (fun c => isLetterOrDigit c || c == '-' || c == '.') 0)), one fun c => !isLetterOrDigit c]

/-- The text after a reference; the character after it belongs to it only when it is a semicolon. -/
def afterReference (found : Match) (text : List Char) : List Char :=
  if (text.drop (found.span.length - 1)).head? == some ';' then text.drop found.span.length
  else text.drop (found.span.length - 1)

/-- The character that a reference by number gives. -/
def numericText (found : Match) : List Char :=
  match found.captured? 1 with
  | some digits => [numberInContent (Text.decimalNumber digits)]
  | none => [numberInContent (Text.hexNumber (found.captured 2))]

/-- Read at an ampersand. `atEnd` tells that nothing follows the text. -/
def readReference (atEnd : Bool) (text : List Char) : Reading :=
  match text with
  | '&' :: '#' :: rest =>
    match numericReference.matchAt none 0 text with
    | some found =>
      match overlongAt? (text.drop 1) with
      | some digits => .rejected (overlongReason digits)
      | none => .go [.text (numericText found)] none (afterReference found text)
    | none => if rest.contains ';' then .stop [.text ['&', '#']] rest else .stop [] text
  | _ =>
    match namedReference.matchAt none 0 text with
    | some found => .go [.text (nameInContent (found.captured 1))] none (afterReference found text)
    | none =>
      match text.drop 1 with
      | [] => .stop [] text
      | c :: rest =>
        if Text.isLetter c then (if atEnd && rest.isEmpty then .stop [] [c] else .stop [] text)
        else .go [.text ['&']] none (c :: rest)

/-! ## Passes -/

/-- Where a pass stopped. -/
structure Stop where
  tokens : List Token
  raw : Option String
  rest : List Char

/-- The stop with tokens before its own. -/
def Stop.after (tokens : List Token) (stop : Stop) : Stop := { stop with tokens := tokens ++ stop.tokens }

/-- A text as a token, unless it is empty. -/
def textTokens (s : List Char) : List Token := if s.isEmpty then [] else [.text s]

/-- The text up to the next closing bracket, or else up to the next opening one, or else one character. -/
def unfinished (text : List Char) : List Char × List Char :=
  match Text.cutAtFirst '>' (text.drop 1) with
  | (inside, some rest) => (text.take 1 ++ inside ++ ['>'], rest)
  | (_, none) =>
    let inside := (text.drop 1).takeWhile (· != '<')
    let rest := (text.drop 1).dropWhile (· != '<')
    if rest.isEmpty then (text.take 1, text.drop 1) else (text.take 1 ++ inside, rest)

/-- The end tag of an element with raw contents, in any letter case. -/
def rawEnd (element : String) : Pattern := sequence [literal "</", blanks, anyCase element, blanks, char '>']

/-- Go through a text up to its end or to a place where the pass stops. -/
def pass (atEnd : Bool) : (fuel : Nat) → (raw : Option String) → List Char → Except String Stop
  | 0, raw, text => .ok ⟨[], raw, text⟩
  | fuel + 1, raw, text =>
    let plain : Option (List Char) :=
      match raw with
      | some element => (cutAtPattern? (rawEnd element) text).map (·.1)
      | none => some (text.takeWhile fun c => c != '&' && c != '<')
    match plain with
    | none => .ok ⟨[], raw, text⟩
    | some plain =>
      let here := text.drop plain.length
      let reading : Reading :=
        match here with
        | [] => .stop [] []
        | '&' :: _ => readReference atEnd here
        | _ => if raw.isSome then readEndTag raw here else readMarkup here
      match reading with
      | .go tokens raw rest => (pass atEnd fuel raw rest).map (Stop.after (textTokens plain ++ tokens))
      | .stop tokens rest => .ok ⟨textTokens plain ++ tokens, raw, rest⟩
      | .rejected message => .error message
      | .incomplete =>
        if atEnd then
          let (taken, rest) := unfinished here
          (pass atEnd fuel raw rest).map (Stop.after (textTokens plain ++ [.text taken]))
        else .ok ⟨textTokens plain, raw, here⟩

/-- The tokens of a text. Raw contents that never end are lost. -/
def tokens (text : List Char) : Except String (List Token) := do
  let first ← pass false (text.length + 1) none text
  let second ← pass true (first.rest.length + 1) first.raw first.rest
  let last := if second.raw.isNone then textTokens second.rest else []
  pure (first.tokens ++ second.tokens ++ last)

end Showcase.Html
