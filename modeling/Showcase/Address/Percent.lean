import Showcase.Text.Hex
import Showcase.Text.Word

/-!
# Percent encoding

A character that may not stand in a part of an address is written as the bytes of its UTF-8 form, each as a percent sign
and two hexadecimal digits. What is encoded already stays as it is.
-/

namespace Showcase.Address

/-- A byte as a percent sign and two digits. -/
def percentByte (byte : UInt8) : List Char :=
  ['%', Text.upperHexDigit (byte.toNat / 16), Text.upperHexDigit (byte.toNat % 16)]

/-- A character as its bytes. -/
def percentEncode (c : Char) : List Char := (String.singleton c).toUTF8.toList.flatMap percentByte

/-- Letters, digits and the marks that stand for themselves in every part of an address. -/
def isUnreserved (c : Char) : Bool :=
  Text.isLetter c || Text.isDigit c || c == '-' || c == '.' || c == '_' || c == '~'

/-- Printable characters of ASCII that are not excluded. -/
def isPlainExcept (excluded : String) (c : Char) : Bool :=
  32 < c.toNat && c.toNat < 127 && !excluded.toList.contains c

/-- A part of an address with everything encoded that may not stand in it, apart from what is encoded already. -/
def encodePart (mayStand : Char → Bool) : List Char → List Char
  | '%' :: a :: b :: rest =>
    if (Text.hexValue? a).isSome && (Text.hexValue? b).isSome then '%' :: a :: b :: encodePart mayStand rest
    else (if mayStand '%' then ['%'] else percentEncode '%') ++ encodePart mayStand (a :: b :: rest)
  | c :: rest => (if mayStand c then [c] else percentEncode c) ++ encodePart mayStand rest
  | [] => []

/-- A value of a form: blanks are plus signs, all but the plain marks is encoded. -/
def encodeFormValue (s : List Char) : List Char :=
  s.flatMap fun c => if c == ' ' then ['+'] else if isUnreserved c then [c] else percentEncode c

/-- The bytes that a part of an address stands for. -/
def decodedBytes : List Char → List UInt8
  | '%' :: a :: b :: rest =>
    match Text.hexValue? a, Text.hexValue? b with
    | some high, some low => UInt8.ofNat (high * 16 + low) :: decodedBytes rest
    | _, _ => '%'.toNat.toUInt8 :: decodedBytes (a :: b :: rest)
  | c :: rest => (String.singleton c).toUTF8.toList ++ decodedBytes rest
  | [] => []

end Showcase.Address
