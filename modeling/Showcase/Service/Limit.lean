import Showcase.Text.Basic
import Showcase.Text.Hex

/-!
# Limits

How often a route may be asked is set as a text: so many requests in a span of time, such as `60/minute` or
`5 per 2 hours`, or several of these, all of which hold. A text of another form sets no limit.
-/

namespace Showcase.Service

/-- A span of time that requests are counted in. -/
inductive Span where
  | second
  | minute
  | hour
  | day
  | month
  | year
deriving DecidableEq, Repr

/-- The word for a span of time. -/
def Span.name : Span → String
  | second => "second"
  | minute => "minute"
  | hour => "hour"
  | day => "day"
  | month => "month"
  | year => "year"

/-- All spans of time. -/
def Span.all : List Span := [.second, .minute, .hour, .day, .month, .year]

/-- So many requests in so many spans of time. -/
structure RateLimit where
  amount : Nat
  spans : Nat
  span : Span
deriving DecidableEq, Repr

namespace RateLimit

/-- A limit in words. -/
def message (limit : RateLimit) : String :=
  toString limit.amount ++ " per " ++ toString limit.spans ++ " " ++ limit.span.name

/-! ## Reading -/

/-- A text without leading blanks. -/
def skipBlank (s : List Char) : List Char := s.dropWhile Text.isBlank

/-- A text without a word in letters of either case at its head. -/
def afterWord? (word : String) (s : List Char) : Option (List Char) :=
  let lowered (c : Char) : Char := if Text.isCapital c then Char.ofNat (c.toNat + 32) else c
  if (s.take word.length).map lowered == word.toList then some (s.drop word.length) else none

/-- The number at the head of a text, which has at most 4300 digits, and what follows. -/
def leadingNumber? (s : List Char) : Option (Nat × List Char) :=
  let digits := s.takeWhile Text.isDigit
  if digits.isEmpty || digits.length > 4300 then none
  else some (Text.decimalNumber digits, s.dropWhile Text.isDigit)

/-- How many spans of time a text begins with: one unless it says otherwise, and one instead of none. -/
def leadingSpans? (s : List Char) : Option (Nat × List Char) :=
  if s.head?.any Text.isDigit then (leadingNumber? s).map fun (n, rest) => (if n = 0 then 1 else n, rest)
  else some (1, s)

/-- The limit at the head of a text, and what follows. -/
def leading? (s : List Char) : Option (RateLimit × List Char) := do
  let (amount, rest) ← leadingNumber? (skipBlank s)
  let rest := skipBlank rest
  let rest ← (afterWord? "/" rest).orElse fun _ => afterWord? "per" rest
  let (spans, rest) ← leadingSpans? (skipBlank rest)
  let rest := skipBlank rest
  let (span, rest) ← Span.all.findSome? fun span => (afterWord? span.name rest).map fun rest => (span, rest)
  pure (⟨amount, spans, span⟩, skipBlank ((afterWord? "s" rest).getD rest))

/-- The limits of pieces of a text. A colon may stand before the separator of two pieces. -/
def ofPieces? : List (List Char) → Option (List RateLimit)
  | [] => some []
  | piece :: pieces =>
    match leading? piece with
    | some (limit, rest) =>
      if rest.isEmpty || (rest == [':'] && !pieces.isEmpty) then (ofPieces? pieces).map (limit :: ·) else none
    | none => none

/-- The limits that a text sets, in their order. -/
def ofText (text : String) : List RateLimit :=
  let separated := text.toList.map fun c => if c == ';' || c == '|' then ',' else c
  (ofPieces? (Text.splitAtChar ',' separated)).getD []

example : ofText "60/minute" = [⟨60, 1, .minute⟩] := by decide

example : ofText "5 per 2 Hours; 1/second" = [⟨5, 2, .hour⟩, ⟨1, 1, .second⟩] := by decide

end RateLimit

end Showcase.Service
