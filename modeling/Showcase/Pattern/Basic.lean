import Showcase.Text.Basic

/-!
# Patterns

A pattern describes a stretch of text: single characters from a class, runs of a class taken as long or as short as
possible, one pattern after another, one of two, and tests of the place that take no text. Repetition is only of
single characters, so matching recurses on the pattern and on the text and always ends.

A match is found by trying the choices in order: the first alternative before the second, the longer run before the
shorter for `many` and the other way round for `few`. The first choice that lets the rest of the pattern match wins.
-/

namespace Showcase

/-- A stretch of text: where it begins, and how many characters of it belong to the stretch. -/
structure Span where
  start : List Char
  length : Nat

/-- The characters of a stretch. -/
def Span.text (span : Span) : List Char := span.start.take span.length

/-- A place in a text: the character before it, how many characters precede it, the text from there on, and the
stretches captured on the way, latest first. -/
structure Cursor where
  before : Option Char
  offset : Nat
  rest : List Char
  captures : List (Nat × Span)

/-- The place one character further, when `c` is the next character and `rest` follows it. -/
def Cursor.past (place : Cursor) (c : Char) (rest : List Char) : Cursor :=
  ⟨some c, place.offset + 1, rest, place.captures⟩

/-- The place with the stretch since `start` captured under a number. -/
def Cursor.captureSince (place : Cursor) (number : Nat) (start : Cursor) : Cursor :=
  { place with captures := (number, ⟨start.rest, place.offset - start.offset⟩) :: place.captures }

/-- What a stretch of text may look like. -/
inductive Pattern where
  /-- The empty stretch. -/
  | nothing
  /-- One character of a class. -/
  | one (test : Char → Bool)
  /-- A run of at least so many characters of a class, as long as possible. -/
  | many (test : Char → Bool) (least : Nat)
  /-- A run of at least so many characters of a class, as short as possible. -/
  | few (test : Char → Bool) (least : Nat)
  /-- One pattern and then another. -/
  | seq (first second : Pattern)
  /-- One pattern or else another. -/
  | either (first second : Pattern)
  /-- A pattern whose stretch is captured under a number. -/
  | capture (number : Nat) (inner : Pattern)
  /-- The edge of a word. -/
  | wordEdge
  /-- The beginning of a line. -/
  | lineStart
  /-- The end of a line. -/
  | lineEnd
  /-- The beginning of the text. -/
  | textStart
  /-- The end of the text, or the place before a newline that ends it. -/
  | textEnd
  /-- A place from which a pattern matches. -/
  | ahead (inner : Pattern)
  /-- A place whose next character is not of a class. -/
  | notBefore (test : Char → Bool)
  /-- A place whose preceding character is not of a class. -/
  | notAfter (test : Char → Bool)

namespace Pattern

/-! ## Matching at a place -/

/-- Go on after a run that is as long as possible: take one more character first, stop only when that fails. -/
def runMany (test : Char → Bool) (go : Cursor → Option Cursor) : (text : List Char) → Nat → Cursor → Option Cursor
  | [], least, place => if least = 0 then go place else none
  | c :: rest, least, place =>
    if test c then
      match runMany test go rest (least - 1) (place.past c rest) with
      | some stop => some stop
      | none => if least = 0 then go place else none
    else if least = 0 then go place else none

/-- Go on after a run that is as short as possible: stop first, take one more character only when that fails. -/
def runFew (test : Char → Bool) (go : Cursor → Option Cursor) : (text : List Char) → Nat → Cursor → Option Cursor
  | [], least, place => if least = 0 then go place else none
  | c :: rest, least, place =>
    match if least = 0 then go place else none with
    | some stop => some stop
    | none => if test c then runFew test go rest (least - 1) (place.past c rest) else none

/-- Match a pattern at a place and go on from the place it ends at; the first way to do both gives the answer. -/
def run : Pattern → (Cursor → Option Cursor) → Cursor → Option Cursor
  | nothing, go, place => go place
  | one test, go, place =>
    match place.rest with
    | c :: rest => if test c then go (place.past c rest) else none
    | [] => none
  | many test least, go, place => runMany test go place.rest least place
  | few test least, go, place => runFew test go place.rest least place
  | seq first second, go, place => run first (run second go) place
  | either first second, go, place =>
    match run first go place with
    | some stop => some stop
    | none => run second go place
  | capture number inner, go, place => run inner (fun stop => go (stop.captureSince number place)) place
  | wordEdge, go, place => if Text.isWordEdge place.before place.rest.head? then go place else none
  | lineStart, go, place => if place.before.all (· == '\n') then go place else none
  | lineEnd, go, place => if place.rest.head?.all (· == '\n') then go place else none
  | textStart, go, place => if place.before.isNone then go place else none
  | textEnd, go, place => if place.rest.isEmpty || place.rest == ['\n'] then go place else none
  | ahead inner, go, place => if (run inner some place).isSome then go place else none
  | notBefore test, go, place => if place.rest.head?.any test then none else go place
  | notAfter test, go, place => if place.before.any test then none else go place

/-! ## Building patterns -/

/-- A character that is exactly this one. -/
def char (c : Char) : Pattern := one (· == c)

/-- Patterns one after the other. -/
def sequence : List Pattern → Pattern
  | [] => nothing
  | first :: others => seq first (sequence others)

/-- The first of several patterns that matches. -/
def choice : List Pattern → Pattern
  | [] => one fun _ => false
  | [only] => only
  | first :: others => either first (choice others)

/-- Exactly this text. -/
def literal (s : String) : Pattern := sequence (s.toList.map char)

/-- A pattern or else nothing. -/
def optional (inner : Pattern) : Pattern := either inner nothing

/-- Any blanks. -/
def blanks : Pattern := many Text.isBlank 0

/-- At least one blank. -/
def someBlanks : Pattern := many Text.isBlank 1

/-- At least one word character. -/
def word : Pattern := many Text.isWord 1

/-- Whether a character is not among those of a string. -/
def outside (s : String) (c : Char) : Bool := !s.toList.contains c

end Pattern

end Showcase
