import Showcase.Text.Bytes

/-!
# Wide encodings

Texts for machines may be encoded in units of two or four bytes as well. Which encoding they are in shows at their head:
in a mark, or in the zero bytes that the first two characters have when they are of ASCII.
-/

namespace Showcase.Text

/-- Which byte of a unit comes first: the one that counts least or the one that counts most. -/
inductive ByteOrder where
  | little
  | big
deriving DecidableEq, Repr

/-- The end of an encoding's name that tells the order of bytes. -/
def ByteOrder.suffix : ByteOrder → String
  | little => "-le"
  | big => "-be"

/-- The number that the bytes of a unit write. -/
def ByteOrder.number (order : ByteOrder) (bytes : List UInt8) : Nat :=
  let inOrder := match order with
    | little => bytes.reverse
    | big => bytes
  inOrder.foldl (fun number byte => number * 256 + byte.toNat) 0

/-- The code points of bytes in units of two, from a place on. Halves of a pair that stand together are joined. -/
def readUtf16 (order : ByteOrder) : (position : Nat) → List UInt8 → Except MalformedBytes (List Nat)
  | _, [] => .ok []
  | position, [byte] => .error ⟨"utf-16" ++ order.suffix, position, 1, byte, .truncated⟩
  | position, a :: b :: c :: d :: rest =>
    let high := order.number [a, b]
    let low := order.number [c, d]
    if isSurrogatePair high low then (readUtf16 order (position + 4) rest).map (pairedPoint high low :: ·)
    else (readUtf16 order (position + 2) (c :: d :: rest)).map (high :: ·)
  | position, a :: b :: rest => (readUtf16 order (position + 2) rest).map (order.number [a, b] :: ·)
termination_by _ bytes => bytes.length

/-- The code points of bytes in units of four, from a place on. -/
def readUtf32 (order : ByteOrder) : (position : Nat) → List UInt8 → Except MalformedBytes (List Nat)
  | _, [] => .ok []
  | position, a :: b :: c :: d :: rest =>
    let number := order.number [a, b, c, d]
    if number ≥ 0x110000 then .error ⟨"utf-32" ++ order.suffix, position, 4, a, .outOfRange⟩
    else (readUtf32 order (position + 4) rest).map (number :: ·)
  | position, byte :: rest =>
    .error ⟨"utf-32" ++ order.suffix, position, rest.length + 1, byte, .truncated⟩

/-- The code points of bytes in an encoding that shows at their head; UTF-8 if none does. -/
def readMarked : List UInt8 → Except MalformedBytes (List Nat)
  | 0x00 :: 0x00 :: 0xFE :: 0xFF :: rest => readUtf32 .big 4 rest
  | 0xFF :: 0xFE :: 0x00 :: 0x00 :: rest => readUtf32 .little 4 rest
  | 0xFE :: 0xFF :: rest => readUtf16 .big 2 rest
  | 0xFF :: 0xFE :: rest => readUtf16 .little 2 rest
  | 0xEF :: 0xBB :: 0xBF :: rest => strictUtf8 rest
  | a :: b :: c :: d :: rest =>
    let bytes := a :: b :: c :: d :: rest
    if a == 0 then if b == 0 then readUtf32 .big 0 bytes else readUtf16 .big 0 bytes
    else if b == 0 then if c == 0 && d == 0 then readUtf32 .little 0 bytes else readUtf16 .little 0 bytes
    else strictUtf8 bytes
  | [a, b] =>
    if a == 0 then readUtf16 .big 0 [a, b] else if b == 0 then readUtf16 .little 0 [a, b] else strictUtf8 [a, b]
  | bytes => strictUtf8 bytes

end Showcase.Text
