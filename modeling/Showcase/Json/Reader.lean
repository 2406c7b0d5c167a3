import Showcase.Json.Basic
import Showcase.Text.Hex

/-!
# Reading JSON

A JSON text is read from the left; what remains after a value is handed on. Besides the standard's values the words
`NaN`, `Infinity` and `-Infinity` are read as numbers. A repeated member keeps its first place and takes its last
value. A text that cannot be read is answered with the first problem met and the place of it.

Whole numbers may have at most 4300 digits. Values may be nested to any depth; where a reader gives up on texts that nest
too deeply depends on what else is under way, so such texts are left out.
-/

namespace Showcase.Json

/-! ## Problems and their places -/

/-- What can be wrong with a JSON text. -/
inductive Problem where
  | expectingValue
  | expectingName
  | expectingColon
  | expectingComma
  | unterminatedString
  | controlCharacter
  | badEscape
  | badUnicodeEscape
  | extraData
  | byteOrderMark
  | tooManyDigits (count : Nat)
deriving DecidableEq, Repr

/-- A problem, and how many characters of the text remain from its place on. -/
structure ReadError where
  problem : Problem
  remaining : Nat
deriving DecidableEq, Repr

/-- What a problem is called. -/
def Problem.name : Problem → String
  | expectingValue => "Expecting value"
  | expectingName => "Expecting property name enclosed in double quotes"
  | expectingColon => "Expecting ':' delimiter"
  | expectingComma => "Expecting ',' delimiter"
  | unterminatedString => "Unterminated string starting at"
  | controlCharacter => "Invalid control character at"
  | badEscape => "Invalid \\escape"
  | badUnicodeEscape => "Invalid \\uXXXX escape"
  | extraData => "Extra data"
  | byteOrderMark => "Unexpected UTF-8 BOM (decode using utf-8-sig)"
  | tooManyDigits count => "Exceeds the limit (4300 digits) for integer string conversion: value has "
      ++ toString count ++ " digits; use sys.set_int_max_str_digits() to increase the limit"

/-- A problem in a text, told with its line, its column and its distance from the beginning. -/
def ReadError.message (text : List Char) (error : ReadError) : String :=
  match error.problem with
  | .tooManyDigits _ => error.problem.name
  | problem =>
    let seen := text.take (text.length - error.remaining)
    let line := seen.count '\n' + 1
    let column := (Text.afterLast '\n' seen).length + 1
    problem.name ++ ": line " ++ toString line ++ " column " ++ toString column ++ " (char "
      ++ toString seen.length ++ ")"

/-- A problem at the head of a text. -/
def problemAt {α : Type} (problem : Problem) (text : List Char) : Except ReadError α :=
  .error ⟨problem, text.length⟩

/-! ## Blanks and strings -/

/-- The blanks of JSON. -/
def isSpace (c : Char) : Bool := c == ' ' || c == '\t' || c == '\n' || c == '\r'

/-- The text without leading blanks. -/
def skipSpace (text : List Char) : List Char := text.dropWhile isSpace

/-- The character that an escape of one letter stands for. -/
def shortEscape? (c : Char) : Option Char :=
  if c == '"' || c == '\\' || c == '/' then some c
  else if c == 'b' then some (Char.ofNat 8)
  else if c == 'f' then some (Char.ofNat 12)
  else if c == 'n' then some '\n'
  else if c == 'r' then some '\r'
  else if c == 't' then some '\t'
  else none

/-- The value of four hexadecimal digits. -/
def fourDigits? (a b c d : Char) : Option Nat := do
  let a ← Text.hexValue? a
  let b ← Text.hexValue? b
  let c ← Text.hexValue? c
  let d ← Text.hexValue? d
  pure (((a * 16 + b) * 16 + c) * 16 + d)

/-- Read the rest of a string literal whose opening quote has `opening` characters from it to the end of the text.
The code points are handed out with surrogates still apart. -/
def readStringBody (opening : Nat) : List Char → Except ReadError (List Nat × List Char)
  | [] => .error ⟨.unterminatedString, opening⟩
  | '"' :: rest => .ok ([], rest)
  | ['\\'] => .error ⟨.unterminatedString, opening⟩
  | '\\' :: 'u' :: a :: b :: c :: d :: e :: rest =>
    match fourDigits? a b c d with
    | none => problemAt .badUnicodeEscape ('u' :: a :: b :: c :: d :: e :: rest)
    | some unit =>
      match readStringBody opening (e :: rest) with
      | .ok (units, after) => .ok (unit :: units, after)
      | .error error => .error error
  | '\\' :: 'u' :: rest => problemAt .badUnicodeEscape ('u' :: rest)
  | '\\' :: c :: rest =>
    match shortEscape? c with
    | none => problemAt .badEscape ('\\' :: c :: rest)
    | some unescaped =>
      match readStringBody opening rest with
      | .ok (units, after) => .ok (unescaped.toNat :: units, after)
      | .error error => .error error
  | c :: rest =>
    if c.toNat < 32 then problemAt .controlCharacter (c :: rest)
    else
      match readStringBody opening rest with
      | .ok (units, after) => .ok (c.toNat :: units, after)
      | .error error => .error error

/-- The string that code units stand for. -/
def stringOfUnits (units : List Nat) : JsonString := .ofPoints (Text.joinSurrogates units)

/-- Read a string literal after its opening quote. -/
def readString (rest : List Char) : Except ReadError (JsonString × List Char) :=
  match readStringBody (rest.length + 1) rest with
  | .ok (units, after) => .ok (stringOfUnits units, after)
  | .error error => .error error

/-! ## Numbers and words -/

/-- Split a text after its leading digits. -/
def takeDigits (text : List Char) : List Char × List Char :=
  (text.takeWhile Text.isDigit, text.dropWhile Text.isDigit)

/-- The digits of the whole part of a number: a single zero, or digits that do not begin with zero. -/
def takeWhole : List Char → Option (List Char × List Char)
  | '0' :: rest => some (['0'], rest)
  | c :: rest => if Text.isDigit c then some (takeDigits (c :: rest)) else none
  | [] => none

/-- The digits after a point, when the point is followed by one. -/
def takeFraction : List Char → List Char × List Char
  | '.' :: rest => if (takeDigits rest).1.isEmpty then ([], '.' :: rest) else takeDigits rest
  | text => ([], text)

/-- The exponent of a number, when its mark is followed by digits. -/
def takeExponent : List Char → Option (Int × List Char)
  | mark :: rest =>
    if mark == 'e' || mark == 'E' then
      let (negative, digits) : Bool × List Char :=
        match rest with
        | '-' :: digits => (true, digits)
        | '+' :: digits => (false, digits)
        | digits => (false, digits)
      let (taken, after) := takeDigits digits
      if taken.isEmpty then none
      else
        let size : Int := Text.decimalNumber taken
        some (if negative then -size else size, after)
    else none
  | [] => none

/-- Read a number whose sign has been read already. -/
def readNumber (negative : Bool) (text : List Char) : Option (Except Problem Json × List Char) :=
  match takeWhole text with
  | none => none
  | some (whole, afterWhole) =>
    let (fraction, afterFraction) := takeFraction afterWhole
    match takeExponent afterFraction with
    | some (exponent, after) =>
      some (.ok (.decimal (.finite negative (Text.decimalNumber (whole ++ fraction)) (exponent - fraction.length))),
        after)
    | none =>
      if !fraction.isEmpty then
        some (.ok (.decimal (.finite negative (Text.decimalNumber (whole ++ fraction)) (-fraction.length))),
          afterFraction)
      else if whole.length > 4300 then some (.error (.tooManyDigits whole.length), afterFraction)
      else
        let size : Int := Text.decimalNumber whole
        some (.ok (.int (if negative then -size else size)), afterFraction)

/-- The rest of a text that begins with a word. -/
def afterWord? (word : String) (text : List Char) : Option (List Char) :=
  if word.toList.isPrefixOf text then some (text.drop word.length) else none

/-- Read a value that is a word or a number. -/
def readScalar (text : List Char) : Except ReadError (Json × List Char) :=
  match afterWord? "null" text with
  | some rest => .ok (.null, rest)
  | none =>
  match afterWord? "true" text with
  | some rest => .ok (.bool true, rest)
  | none =>
  match afterWord? "false" text with
  | some rest => .ok (.bool false, rest)
  | none =>
  match afterWord? "NaN" text with
  | some rest => .ok (.decimal .notANumber, rest)
  | none =>
  match afterWord? "Infinity" text with
  | some rest => .ok (.decimal (.infinite false), rest)
  | none =>
  match afterWord? "-Infinity" text with
  | some rest => .ok (.decimal (.infinite true), rest)
  | none =>
  let number :=
    match text with
    | '-' :: rest => readNumber true rest
    | _ => readNumber false text
  match number with
  | some (.ok value, rest) => .ok (value, rest)
  | some (.error problem, _) => problemAt problem text
  | none => problemAt .expectingValue text

/-! ## Values -/

/-- Enter a member: in the place of an earlier one of the same name, else at the end. -/
def putMember (name : JsonString) (value : Json) : List (JsonString × Json) → List (JsonString × Json)
  | [] => [(name, value)]
  | (known, old) :: others =>
    if known = name then (name, value) :: others else (known, old) :: putMember name value others

mutual

/-- Read a value at the head of a text. -/
def readValue : (fuel : Nat) → List Char → Except ReadError (Json × List Char)
  | 0, text => problemAt .expectingValue text
  | _ + 1, '"' :: rest =>
    match readString rest with
    | .ok (s, after) => .ok (.str s, after)
    | .error error => .error error
  | fuel + 1, '[' :: rest =>
    match skipSpace rest with
    | ']' :: after => .ok (.arr [], after)
    | text =>
      match readItems fuel text with
      | .ok (items, after) => .ok (.arr items, after)
      | .error error => .error error
  | fuel + 1, '{' :: rest =>
    match skipSpace rest with
    | '}' :: after => .ok (.obj [], after)
    | text =>
      match readMembers fuel [] text with
      | .ok (members, after) => .ok (.obj members, after)
      | .error error => .error error
  | _ + 1, text => readScalar text

/-- Read the items of an array up to its closing bracket. -/
def readItems : (fuel : Nat) → List Char → Except ReadError (List Json × List Char)
  | 0, text => problemAt .expectingValue text
  | fuel + 1, text =>
    match readValue fuel text with
    | .error error => .error error
    | .ok (item, after) =>
      match skipSpace after with
      | ']' :: rest => .ok ([item], rest)
      | ',' :: rest =>
        match readItems fuel (skipSpace rest) with
        | .ok (items, last) => .ok (item :: items, last)
        | .error error => .error error
      | other => problemAt .expectingComma other

/-- Read the members of an object up to its closing brace, entering them after those already read. -/
def readMembers : (fuel : Nat) → (known : List (JsonString × Json)) → List Char →
    Except ReadError (List (JsonString × Json) × List Char)
  | 0, _, text => problemAt .expectingName text
  | fuel + 1, known, '"' :: rest =>
    match readString rest with
    | .error error => .error error
    | .ok (name, afterName) =>
      match skipSpace afterName with
      | ':' :: afterColon =>
        match readValue fuel (skipSpace afterColon) with
        | .error error => .error error
        | .ok (value, afterValue) =>
          let entered := putMember name value known
          match skipSpace afterValue with
          | '}' :: last => .ok (entered, last)
          | ',' :: last => readMembers fuel entered (skipSpace last)
          | other => problemAt .expectingComma other
      | other => problemAt .expectingColon other
  | _ + 1, _, text => problemAt .expectingName text

end

/-- Read a text that is one value between blanks. -/
def read (text : List Char) : Except ReadError Json :=
  if text.head?.any (·.toNat == 0xFEFF) then .error ⟨.byteOrderMark, text.length⟩
  else
    match readValue (text.length + 1) (skipSpace text) with
    | .error error => .error error
    | .ok (value, after) =>
      match skipSpace after with
      | [] => .ok value
      | extra => problemAt .extraData extra

end Showcase.Json
