import Showcase.Failure
import Showcase.Json.Reader
import Showcase.Json.Writer
import Showcase.Text.Wide

/-!
# Bodies

A body is bytes, perhaps with the encoding that they are said to have. As a text it is read leniently: what is malformed
is replaced. As JSON it has to be sound.
-/

namespace Showcase.Network

/-! ## Encodings -/

/-- An encoding by the codec that reads it. A codec of characters makes a string of any bytes and replaces what it cannot
read; a codec of anything else fails for a reason. -/
structure Charset where
  name : String
  decode : List UInt8 → Except String JsonString

namespace Charset

/-- An encoding in which every byte sequence is read as characters. -/
def ofChars (name : String) (read : List UInt8 → List Char) : Charset :=
  ⟨name, fun bytes => .ok (.text (String.ofList (read bytes)))⟩

/-- UTF-8, which a body is in unless it says otherwise. -/
def utf8 : Charset := ofChars "utf-8" Text.lenientUtf8

/-- The encoding in which every byte is a character. -/
def latin1 : Charset := ofChars "latin-1" Text.latin1

/-- The encoding of ASCII alone. -/
def ascii : Charset :=
  ofChars "ascii" (List.map fun byte => if byte < 0x80 then Char.ofNat byte.toNat else Text.replacementChar)

/-- Names of the encoding in which every byte is a character. -/
def latin1Keys : List String := ["iso88591", "latin1", "latin", "l1", "8859", "cp819", "ibm819", "isoir100"]

/-- Names of the encoding of ASCII alone. -/
def asciiKeys : List String := ["ascii", "usascii", "646", "ansix341968", "iso646us", "cp367", "ibm367", "us"]

/-- The encoding with a name, of which letters and digits count. Only the commonest are told apart by name: a body may
still be given any encoding. -/
def ofName (name : String) : Charset :=
  let key := String.ofList (name.toList.filter fun c => Text.isLetter c || Text.isDigit c)
  if latin1Keys.contains key then latin1 else if asciiKeys.contains key then ascii else utf8

end Charset

/-! ## Bodies -/

/-- The contents of a message. -/
structure Body where
  charset : Option Charset
  bytes : List UInt8

namespace Body

/-- Nothing. -/
def empty : Body := ⟨none, []⟩

/-- A text in UTF-8. -/
def ofText (s : String) : Body := ⟨some .utf8, Text.utf8Bytes s⟩

/-- A JSON value, written compactly. -/
def ofJson (value : Json) : Body := ⟨none, Text.utf8Bytes (String.ofList (value.write .compact))⟩

/-- The encoding that a content type names. -/
def charsetOf? (contentType : String) : Option Charset :=
  (Text.splitAtChar ';' contentType.toList).findSome? fun parameter =>
    match Text.cutAtFirst '=' (Text.trim parameter) with
    | (name, some value) =>
      if Text.lower (Text.trim name) == "charset".toList then
        some (.ofName (String.ofList (Text.lower (Text.stripWhile (· == '"') (Text.trim value)))))
      else none
    | (_, none) => none

/-- A body as a string, as its codec reads it. No bytes are the empty text in every encoding. -/
def text (body : Body) : Fallible JsonString :=
  if body.bytes.isEmpty then .ok (.text "")
  else
    let charset := body.charset.getD .utf8
    match charset.decode body.bytes with
    | .ok s => .ok s
    | .error problem => .error (.unusable (.decoding problem) charset.name)

/-- A code point of a JSON text, with half of a surrogate pair as its escape. -/
def jsonPoint (point : Nat) : List Char :=
  if Text.isSurrogate point then '\\' :: 'u' :: Text.hexDigits 4 point else [Char.ofNat point]

/-- A body as JSON, or what is wrong with it. Half of a pair may be spelt by bytes within a string, as it may be escaped;
no problem and no place of one depend on which character stands there. -/
def json (body : Body) : Except String Json :=
  match Text.readMarked body.bytes with
  | .error malformed => .error malformed.message
  | .ok points =>
    let shown := points.map Text.shownPoint
    match Json.read shown with
    | .ok value => .ok ((Json.read (points.flatMap jsonPoint)).toOption.getD value)
    | .error error => .error (error.message shown)

end Body

end Showcase.Network
