import Showcase.Pattern.Basic

/-!
# Search and replacement

The matches of a pattern in a text are found from left to right, each at the earliest place possible, and none of
them overlaps another. A text is thereby divided into matches and the characters between them (`divide`), and
replacement changes the matches and keeps the rest.
-/

namespace Showcase

/-- A stretch of text that matches a pattern, with what was captured in it. -/
structure Match where
  span : Span
  captures : List (Nat × Span)

/-- The matching text. -/
def Match.text (found : Match) : List Char := found.span.text

/-- The text captured under a number, if that part of the pattern took part in the match. -/
def Match.captured? (found : Match) (number : Nat) : Option (List Char) :=
  (found.captures.lookup number).map Span.text

/-- The text captured under a number, empty if that part of the pattern took no part in the match. -/
def Match.captured (found : Match) (number : Nat) : List Char := (found.captured? number).getD []

namespace Pattern

/-- The match of a pattern that begins exactly at the head of `text`, which stands after the character `before`. -/
def matchAt (pattern : Pattern) (before : Option Char) (offset : Nat) (text : List Char) : Option Match :=
  (pattern.run some ⟨before, offset, text, []⟩).map fun stop => ⟨⟨text, stop.offset - offset⟩, stop.captures⟩

/-- The first match at or after the head of `text`. -/
def findFrom (pattern : Pattern) : (before : Option Char) → (offset : Nat) → List Char → Option Match
  | before, offset, [] => pattern.matchAt before offset []
  | before, offset, c :: rest =>
    match pattern.matchAt before offset (c :: rest) with
    | some found => some found
    | none => findFrom pattern (some c) (offset + 1) rest

/-- The first match in a text. -/
def find? (pattern : Pattern) (text : List Char) : Option Match := pattern.findFrom none 0 text

/-- Whether a pattern matches somewhere in a text. -/
def occursIn (pattern : Pattern) (text : List Char) : Bool := (pattern.find? text).isSome

/-- A part of a text as a pattern divides it: a character that belongs to no match, or a match. -/
inductive Part where
  | plain (c : Char)
  | found (m : Match)

/-- Divide `text` after its first `taken` characters, which belong to a match already found. An empty match counts
as none. -/
def divideFrom (pattern : Pattern) : (before : Option Char) → (offset taken : Nat) → List Char → List Part
  | _, _, _, [] => []
  | _, offset, taken + 1, c :: rest => divideFrom pattern (some c) (offset + 1) taken rest
  | before, offset, 0, c :: rest =>
    match pattern.matchAt before offset (c :: rest) with
    | some found =>
      if found.span.length = 0 then .plain c :: divideFrom pattern (some c) (offset + 1) 0 rest
      else .found found :: divideFrom pattern (some c) (offset + 1) (found.span.length - 1) rest
    | none => .plain c :: divideFrom pattern (some c) (offset + 1) 0 rest

/-- The parts of a text: the matches, found from left to right, and the characters between them. -/
def divide (pattern : Pattern) (text : List Char) : List Part := pattern.divideFrom none 0 0 text

/-- The matches in a text, from left to right. -/
def findAll (pattern : Pattern) (text : List Char) : List Match :=
  (pattern.divide text).filterMap fun
    | .plain _ => none
    | .found m => some m

/-- The text with every match replaced. -/
def replaceAll (pattern : Pattern) (replacement : Match → List Char) (text : List Char) : List Char :=
  (pattern.divide text).flatMap fun
    | .plain c => [c]
    | .found m => replacement m

end Pattern

end Showcase
