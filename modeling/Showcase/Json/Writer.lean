import Showcase.Json.Basic
import Showcase.Number.Shortest
import Showcase.Text.Hex

/-!
# Writing JSON

A value is written without line breaks in one of two styles: the spaced style puts a blank after commas and colons and
escapes everything outside printable ASCII; the compact style has no blanks and escapes only what has to be escaped.
-/

namespace Showcase.Json

/-- How a value is written. -/
structure Style where
  betweenItems : String
  afterName : String
  asciiOnly : Bool

/-- Blanks after commas and colons, nothing outside printable ASCII. -/
def Style.spaced : Style := ⟨", ", ": ", true⟩

/-- No blanks, every character that may stand for itself. -/
def Style.compact : Style := ⟨",", ":", false⟩

/-- The escape of a code unit by four hexadecimal digits. -/
def unicodeEscape (unit : Nat) : List Char := '\\' :: 'u' :: Text.hexDigits 4 unit

/-- One character inside a string literal. -/
def escapeChar (asciiOnly : Bool) (c : Char) : List Char :=
  if c == '"' then ['\\', '"']
  else if c == '\\' then ['\\', '\\']
  else if c == '\n' then ['\\', 'n']
  else if c == '\r' then ['\\', 'r']
  else if c == '\t' then ['\\', 't']
  else if c.toNat == 8 then ['\\', 'b']
  else if c.toNat == 12 then ['\\', 'f']
  else if c.toNat < 32 then unicodeEscape c.toNat
  else if asciiOnly && c.toNat ≥ 127 then
    if c.toNat < 0x10000 then unicodeEscape c.toNat
    else unicodeEscape (0xD800 + (c.toNat - 0x10000) / 0x400) ++ unicodeEscape (0xDC00 + (c.toNat - 0x10000) % 0x400)
  else [c]

/-- One code point inside a string literal. Half of a pair is no character and has its escape only. -/
def escapePoint (asciiOnly : Bool) (point : Nat) : List Char :=
  if Text.isSurrogate point then unicodeEscape point else escapeChar asciiOnly (Char.ofNat point)

/-- A string literal. -/
def writeString (asciiOnly : Bool) : JsonString → List Char
  | .text s => '"' :: s.toList.flatMap (escapeChar asciiOnly) ++ ['"']
  | .unpaired points _ => '"' :: points.flatMap (escapePoint asciiOnly) ++ ['"']

mutual

/-- A value as text. -/
def write (style : Style) : Json → List Char
  | .null => "null".toList
  | .bool true => "true".toList
  | .bool false => "false".toList
  | .int n => (toString n).toList
  | .decimal d => d.toDouble.toText.toList
  | .str s => writeString style.asciiOnly s
  | .arr items => '[' :: writeItems style items ++ [']']
  | .obj members => '{' :: writeMembers style members ++ ['}']

/-- The items of an array as text. -/
def writeItems (style : Style) : List Json → List Char
  | [] => []
  | [last] => write style last
  | item :: others => write style item ++ style.betweenItems.toList ++ writeItems style others

/-- The members of an object as text. -/
def writeMembers (style : Style) : List (JsonString × Json) → List Char
  | [] => []
  | [(name, last)] => writeString style.asciiOnly name ++ style.afterName.toList ++ write style last
  | (name, value) :: others =>
    writeString style.asciiOnly name ++ style.afterName.toList ++ write style value
      ++ style.betweenItems.toList ++ writeMembers style others

end

end Showcase.Json
