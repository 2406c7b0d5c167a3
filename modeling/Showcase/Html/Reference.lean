import Showcase.Html.Table.Names
import Showcase.Text.Word

/-!
# Character references

A character may be referred to by its name or by its number. In an attribute a reference may lack its semicolon, and a
name is then read as far as it is known; numbers that no text may hold give nothing. In content the extent of a
reference is known already. In both, the numbers of the upper control characters mean the characters that a widespread
older encoding has there. A number in more than 4300 decimal digits makes the markup unreadable. The number of half of a
surrogate pair, which is no character, gives the replacement character.
-/

namespace Showcase.Html

/-- The characters that the numbers from 0x80 to 0x9F mean. -/
def legacyCharacters : List Nat :=
  [0x20AC, 0x81, 0x201A, 0x192, 0x201E, 0x2026, 0x2020, 0x2021, 0x2C6, 0x2030, 0x160, 0x2039, 0x152, 0x8D, 0x17D, 0x8F,
    0x90, 0x2018, 0x2019, 0x201C, 0x201D, 0x2022, 0x2013, 0x2014, 0x2DC, 0x2122, 0x161, 0x203A, 0x153, 0x9D, 0x17E,
    0x178]

/-- The number of the character that a number means. -/
def legacyNumber (n : Nat) : Nat := if 0x80 ≤ n ∧ n < 0xA0 then legacyCharacters.getD (n - 0x80) n else n

/-- The character that stands for one that cannot be shown. -/
def replacement : Char := Char.ofNat 0xFFFD

/-- Whether a number is that of a character. -/
def isCharacterNumber (n : Nat) : Bool := n < 0xD800 || (0xDFFF < n && n < 0x110000)

/-! ## Numbers that are too long -/

/-- How many digits a number has after an ampersand, if it is too long to be read. -/
def overlongAt? : List Char → Option Nat
  | '#' :: rest =>
    let digits := rest.takeWhile Text.isDigit
    if digits.length > 4300 then some digits.length else none
  | _ => none

/-- How many digits the first number of a text has that is too long to be read. -/
def firstOverlong? : List Char → Option Nat
  | [] => none
  | c :: rest => (if c == '&' then overlongAt? rest else none).or (firstOverlong? rest)

/-- Why a number in so many digits cannot be read. -/
def overlongReason (digits : Nat) : String :=
  "Exceeds the limit (4300 digits) for integer string conversion: value has " ++ toString digits
    ++ " digits; use sys.set_int_max_str_digits() to increase the limit"

/-! ## In content -/

/-- The character that a number refers to in content. -/
def numberInContent (n : Nat) : Char :=
  if isCharacterNumber n then Char.ofNat (legacyNumber n) else replacement

/-- The text that a name refers to in content; an unknown name stands for itself after an ampersand. -/
def nameInContent (name : List Char) : List Char :=
  match Table.namedCharacters.find? fun entry => entry.name == name with
  | some entry => entry.characters
  | none => '&' :: name

/-! ## In attributes -/

/-- Whether a number is that of a control character or of a code point set aside. -/
def isForbiddenNumber (n : Nat) : Bool :=
  (1 ≤ n && n ≤ 8) || n == 0xB || (0xE ≤ n && n ≤ 0x1F) || (0x7F ≤ n && n ≤ 0x9F) || (0xFDD0 ≤ n && n ≤ 0xFDEF)
    || n % 0x10000 ≥ 0xFFFE

/-- The text that a number refers to in an attribute. -/
def numberInAttribute (n : Nat) : List Char :=
  if n == 0 then [replacement]
  else if 0x80 ≤ n && n < 0xA0 then [Char.ofNat (legacyNumber n)]
  else if !isCharacterNumber n then [replacement]
  else if isForbiddenNumber n then []
  else [Char.ofNat n]

/-- The characters of a name as it is written, with a semicolon or without. -/
def writtenName? (written : List Char) : Option (List Char) :=
  match written.getLast? with
  | some ';' => (Table.namedCharacters.find? fun entry => entry.name == written.dropLast).map (·.characters)
  | _ => (Table.namedCharacters.find? fun entry => entry.isBare && entry.name == written).map (·.characters)

/-- The text of the longest of the leading parts of a name that is known, from `length` characters down to two, with
the rest of the name after it. -/
def longestKnown (written : List Char) : (length : Nat) → List Char
  | 0 => '&' :: written
  | length + 1 =>
    if length + 1 < 2 then '&' :: written
    else
      match writtenName? (written.take (length + 1)) with
      | some characters => characters ++ written.drop (length + 1)
      | none => longestKnown written length

/-- The text that a name refers to in an attribute. -/
def nameInAttribute (written : List Char) : List Char :=
  match writtenName? written with
  | some characters => characters
  | none => longestKnown written (written.length - 1)

/-- Whether a character may occur in the name of a reference in an attribute. -/
def isReferenceChar (c : Char) : Bool :=
  !(c == '\t' || c == '\n' || c.toNat == 12 || c == ' ' || c == '<' || c == '&' || c == '#' || c == ';')

/-- The length of an optional semicolon at the head of a text. -/
def semicolonLength (text : List Char) : Nat := if text.head? == some ';' then 1 else 0

/-- A reference after its ampersand in an attribute: the text it refers to and how many characters it takes. -/
def referenceAt? (text : List Char) : Option (List Char × Nat) :=
  match text with
  | '#' :: rest =>
    let digits := rest.takeWhile Text.isDigit
    if digits.isEmpty then
      match rest with
      | x :: afterMark =>
        let hexDigits := afterMark.takeWhile fun c => (Text.hexValue? c).isSome
        if (x == 'x' || x == 'X') && !hexDigits.isEmpty then
          some (numberInAttribute (Text.hexNumber hexDigits),
            2 + hexDigits.length + semicolonLength (afterMark.drop hexDigits.length))
        else none
      | [] => none
    else
      some (numberInAttribute (Text.decimalNumber digits),
        1 + digits.length + semicolonLength (rest.drop digits.length))
  | _ =>
    let name := (text.takeWhile isReferenceChar).take 32
    if name.isEmpty then none
    else
      let semicolon := semicolonLength (text.drop name.length)
      some (nameInAttribute (text.take (name.length + semicolon)), name.length + semicolon)

/-- Resolve the references of an attribute after its first `taken` characters, which belong to one resolved already. -/
def resolveFrom : (taken : Nat) → List Char → List Char
  | _, [] => []
  | taken + 1, _ :: rest => resolveFrom taken rest
  | 0, c :: rest =>
    if c == '&' then
      match referenceAt? rest with
      | some (resolved, length) => resolved ++ resolveFrom length rest
      | none => c :: resolveFrom 0 rest
    else c :: resolveFrom 0 rest

/-- The value of an attribute with its references resolved. -/
def resolve (value : List Char) : List Char := resolveFrom 0 value

end Showcase.Html
