import Showcase.Bindings
import Showcase.Json.Basic
import Showcase.Record.Issue
import Showcase.Text.Hex

/-!
# Reading the fields of a record

The readers of single values, and the combinators that read the fields of a record one after the other and gather the
issues of all of them. Numbers and truth values are read leniently: a whole number may be given as a truth value, as a
number without fraction, or as digits in a string. A string may have an unpaired surrogate where nothing is asked of it;
a text that has to be filled, a word that is chosen and a number may not.
-/

namespace Showcase

/-- A value that was read, or the issues found. -/
abbrev Checked (α : Type) := Except (List Issue) α

namespace Checked

/-- A single fault at this very value. -/
def fault {α : Type} (f : Fault) : Checked α := .error [⟨[], f⟩]

/-- The result with every issue seen from one step further out. -/
def under {α : Type} (step : Step) : Checked α → Checked α
  | .ok value => .ok value
  | .error issues => .error (issues.map (Issue.under step))

/-- Begin a record with the function that makes it from its fields. -/
def record {α : Type} (make : α) : Checked α := .ok make

/-- Supply the next field; issues of all fields are gathered in order. -/
def field {α β : Type} : Checked (α → β) → Checked α → Checked β
  | .ok make, .ok value => .ok (make value)
  | .ok _, .error issues => .error issues
  | .error issues, .ok _ => .error issues
  | .error issues, .error others => .error (issues ++ others)

end Checked

namespace Field

/-! ## Texts and choices -/

/-- A string, whether it is Unicode text or not. -/
def string : Json → Checked JsonString
  | .str s => .ok s
  | _ => Checked.fault .notText

/-- A string as the text that it shows. -/
def text (value : Json) : Checked String := (string value).map JsonString.shown

/-- A text that is not empty. -/
def filledText : Json → Checked String
  | .str (.text s) => if s.isEmpty then Checked.fault .emptyText else .ok s
  | .str (.unpaired _ _) => Checked.fault .notUnicode
  | _ => Checked.fault .notText

/-- One of several words. -/
def choice {α : Type} (choices : List (String × α)) : Json → Checked α
  | .str (.text word) =>
    match choices.lookup word with
    | some chosen => .ok chosen
    | none => Checked.fault (.notAmong (choices.map (·.1)))
  | .str (.unpaired _ _) => Checked.fault .notUnicode
  | _ => Checked.fault (.notAmong (choices.map (·.1)))

/-- Null or a value. -/
def nullable {α : Type} (read : Json → Checked α) : Json → Checked (Option α)
  | .null => .ok none
  | value => (read value).map some

/-! ## Numbers and truth values -/

/-- The blanks that may surround a number given as a string. -/
def isPadding (c : Char) : Bool := Text.isBlank c && !(28 ≤ c.toNat && c.toNat ≤ 31)

/-- Whether a text begins with a minus, and the text without its sign. -/
def signed : List Char → Bool × List Char
  | '-' :: rest => (true, rest)
  | '+' :: rest => (false, rest)
  | rest => (false, rest)

/-- The text without underscores, of which each has to stand between two other characters. -/
def withoutUnderscores? (s : List Char) : Option (List Char) :=
  if s.head? == some '_' || s.getLast? == some '_' || Text.occursIn ['_', '_'] s then none
  else some (s.filter (· != '_'))

/-- Read digits behind a sign, at most 4300 characters with a minus. Only zero itself begins with zero. -/
def digitsBehind (negative : Bool) (s : List Char) : Except Fault Int :=
  let digits := s.takeWhile Text.isDigit
  if s == ['0'] then .ok 0
  else if digits.isEmpty || digits.head? == some '0' then .error .unreadableWhole
  -- the size is found out before what stands behind the digits
  else if digits.length + negative.toNat > 4300 then .error .overlongWhole
  else if digits.length < s.length then .error .unreadableWhole
  else
    let size : Int := Text.decimalNumber digits
    .ok (if negative then -size else size)

/-- Read digits behind an optional minus. -/
def numeral : List Char → Except Fault Int
  | '-' :: rest => digitsBehind true rest
  | s => digitsBehind false s

/-- What is left behind leading zeros, of which `last` is the last character read. It may begin with a minus. -/
def behindZeros? (last : Char) : List Char → Option (List Char)
  | [] => some [last]
  | c :: rest =>
    if c == '0' || c == '_' then behindZeros? c rest
    else if c == '.' then some (last :: c :: rest)
    else if Text.isDigit c || c == '-' then some (c :: rest)
    else none

/-- The text without leading zeros. -/
def withoutLeadingZeros? : List Char → Option (List Char)
  | [] => none
  | c :: rest => if c == '0' then behindZeros? c rest else if Text.isDigit c then some (c :: rest) else none

/-- The text without a point and the zeros behind it. -/
def withoutZeroFraction (s : List Char) : List Char :=
  match Text.cutAtFirst '.' s with
  | (whole, some fraction) => if !fraction.isEmpty && fraction.all (· == '0') then whole else s
  | (_, none) => s

/-- A text cleaned of padding, a plus, leading zeros, a fraction of zeros and underscores. -/
def cleaned? (s : List Char) : Option (List Char) := do
  let (negative, unsigned) := signed (Text.stripWhile isPadding s)
  let digits ← withoutUnderscores? (withoutZeroFraction (← withoutLeadingZeros? unsigned))
  pure (if negative then '-' :: digits else digits)

/-- The whole number a string stands for, as it is or cleaned. -/
def wholeOfText (s : List Char) : Checked Int :=
  match numeral s with
  | .ok n => .ok n
  | .error .overlongWhole => Checked.fault .overlongWhole
  | .error _ =>
    match (cleaned? s).map numeral with
    | some (.ok n) => .ok n
    | _ => Checked.fault .unreadableWhole

/-- The whole number that a number without fraction is, as long as it fits into 64 bits. -/
def wholeOfDouble (x : Double) : Checked Int :=
  if !x.isFinite then Checked.fault .notFinite
  else if x.hasFraction then Checked.fault .fraction
  else
    let n := x.truncated?.getD 0
    if n.natAbs < Nat.pow 2 63 then .ok n else Checked.fault .overlongWhole

/-- A whole number. -/
def whole : Json → Checked Int
  | .int n => .ok n
  | .bool b => .ok (if b then 1 else 0)
  | .decimal d => wholeOfDouble d.toDouble
  | .str (.text s) => wholeOfText s.toList
  | .str (.unpaired _ _) => Checked.fault .notUnicode
  | _ => Checked.fault .notWhole

/-- What may follow the sign of an exponent. -/
def exponentOf? (s : List Char) : Option Int :=
  let (negative, digits) := signed s
  if digits.all Text.isDigit && !digits.isEmpty then
    let size : Int := Text.decimalNumber digits
    some (if negative then -size else size)
  else none

/-- The number that a text without sign writes: digits with an optional point, an optional exponent, or a word for what
is not finite. -/
def unsignedNumber? (negative : Bool) (s : List Char) : Option Decimal :=
  let lowered := s.map fun c => if Text.isCapital c then Char.ofNat (c.toNat + 32) else c
  if lowered == "inf".toList || lowered == "infinity".toList then some (.infinite negative)
  else if lowered == "nan".toList then some .notANumber
  else
    let (mantissa, exponent) := Text.cutAtFirst 'e' lowered
    let (whole, fraction) := Text.cutAtFirst '.' mantissa
    let places := fraction.getD []
    if (whole ++ places).all Text.isDigit && !(whole ++ places).isEmpty then
      (exponent.elim (some 0) exponentOf?).map fun power =>
        .finite negative (Text.decimalNumber (whole ++ places)) (power - places.length)
    else none

/-- The number that a text with an optional sign writes. -/
def signedNumber? (s : List Char) : Option Decimal :=
  let (negative, bare) := signed s
  unsignedNumber? negative bare

/-- The number that a text writes: between padding, or else without padding and with single underscores. -/
def numberOfText? (s : List Char) : Option Decimal :=
  (signedNumber? (Text.stripWhile isPadding s)).or ((withoutUnderscores? s).bind signedNumber?)

/-- The decimal that is a whole number. -/
def decimalOfWhole (n : Int) : Decimal := .finite (n < 0) n.natAbs 0

/-- A number of any kind. -/
def number : Json → Checked Decimal
  | .int n => .ok (decimalOfWhole n)
  | .bool b => .ok (decimalOfWhole (if b then 1 else 0))
  | .decimal d => .ok d
  | .str (.text s) =>
    match numberOfText? s.toList with
    | some d => .ok d
    | none => Checked.fault .unreadableNumber
  | .str (.unpaired _ _) => Checked.fault .notUnicode
  | _ => Checked.fault .notNumber

/-- The words that stand for true. -/
def wordsForTrue : List String := ["1", "on", "t", "true", "y", "yes"]

/-- The words that stand for false. -/
def wordsForFalse : List String := ["0", "off", "f", "false", "n", "no"]

/-- A truth value. -/
def truth : Json → Checked Bool
  | .bool b => .ok b
  | .int n =>
    if n = 0 then .ok false else if n = 1 then .ok true else Checked.fault .unreadableTruth
  | .decimal d =>
    if d.toDouble.isInt 0 then .ok false
    else if d.toDouble.isInt 1 then .ok true
    else Checked.fault (if d.toDouble.isFinite && !d.toDouble.hasFraction then .unreadableTruth else .notTruth)
  | .str (.text s) =>
    if wordsForTrue.contains (lowercase s) then .ok true
    else if wordsForFalse.contains (lowercase s) then .ok false
    else Checked.fault .unreadableTruth
  | .str (.unpaired _ _) => Checked.fault .notUnicode
  | _ => Checked.fault .notTruth

/-! ## Tables and lists -/

/-- Read the items of a list, numbered from `index` on. -/
def items {α : Type} (read : Json → Checked α) : (index : Nat) → List Json → Checked (List α)
  | _, [] => .ok []
  | index, item :: others =>
    Checked.record List.cons |>.field ((read item).under (.item index)) |>.field (items read (index + 1) others)

/-- A list of values. -/
def list {α : Type} (read : Json → Checked α) : Json → Checked (List α)
  | .arr values => items read 0 values
  | _ => Checked.fault .notList

/-- A list of values with at least one of them. -/
def filledList {α : Type} (read : Json → Checked α) (value : Json) : Checked (List α) :=
  match list read value with
  | .ok [] => Checked.fault .emptyList
  | other => other

/-- Read the entries of a table of strings. -/
def entries : List (JsonString × Json) → Checked (List (JsonString × JsonString))
  | [] => .ok []
  | (name, value) :: others =>
    Checked.record (fun s rest => (name, s) :: rest)
      |>.field ((string value).under (.member name))
      |>.field (entries others)

/-- A table from names to strings. -/
def stringTable : Json → Checked (List (JsonString × JsonString))
  | .obj members => entries members
  | _ => Checked.fault .notTable

/-- A table from names to texts. -/
def table (value : Json) : Checked Bindings :=
  (stringTable value).map (List.map fun entry => (entry.1.shown, entry.2.shown))

/-! ## Members -/

/-- A member that has to be there. -/
def required {α : Type} (members : List (JsonString × Json)) (name : String) (read : Json → Checked α) : Checked α :=
  match Json.member? members name with
  | some value => (read value).under (.member name)
  | none => (Checked.fault .missing).under (.member name)

/-- A member with a value to take when it is not there. -/
def withDefault {α : Type} (members : List (JsonString × Json)) (name : String) (default : α)
    (read : Json → Checked α) : Checked α :=
  match Json.member? members name with
  | some value => (read value).under (.member name)
  | none => .ok default

/-- A member that may be absent or null. -/
def optional {α : Type} (members : List (JsonString × Json)) (name : String) (read : Json → Checked α) :
    Checked (Option α) :=
  withDefault members name none (nullable read)

end Field

end Showcase
