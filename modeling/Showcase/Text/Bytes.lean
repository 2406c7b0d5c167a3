import Showcase.Text.Hex
import Showcase.Text.Surrogate

/-!
# Texts as bytes

A body arrives as bytes and is read as UTF-8 unless it says otherwise. A part of the bytes that is no character is
malformed: as a text it becomes one replacement character, and where only sound bytes will do it is a fault with a
place.
-/

namespace Showcase.Text

/-- What is wrong with bytes. -/
inductive ByteFault where
  | badStart
  | badContinuation
  | endsEarly
  | truncated
  | outOfRange
deriving DecidableEq, Repr

/-- A fault in words. -/
def ByteFault.message : ByteFault → String
  | badStart => "invalid start byte"
  | badContinuation => "invalid continuation byte"
  | endsEarly => "unexpected end of data"
  | truncated => "truncated data"
  | outOfRange => "code point not in range(0x110000)"

/-- What stands at the head of bytes: a character of so many bytes, or a malformed part of so many bytes. -/
inductive Scanned where
  | character (c : Char) (size : Nat)
  | malformed (fault : ByteFault) (size : Nat)

/-- Whether a byte continues a character. -/
def isContinuation (byte : UInt8) : Bool := 0x80 ≤ byte && byte < 0xC0

/-- The payload of a continuation byte. -/
def continuationBits (byte : UInt8) : Nat := byte.toNat - 0x80

/-- Whether a byte may be the second of a character that begins with another. -/
def mayFollow (first second : UInt8) : Bool :=
  isContinuation second
    && !(first == 0xE0 && second < 0xA0) && !(first == 0xED && second ≥ 0xA0)
    && !(first == 0xF0 && second < 0x90) && !(first == 0xF4 && second ≥ 0x90)

/-- What stands at the head of bytes in UTF-8. -/
def scanUtf8 (first : UInt8) (rest : List UInt8) : Scanned :=
  if first < 0x80 then .character (Char.ofNat first.toNat) 1
  else if first < 0xC2 || first > 0xF4 then .malformed .badStart 1
  else
    match rest with
    | [] => .malformed .endsEarly 1
    | second :: rest =>
      if !mayFollow first second then .malformed .badContinuation 1
      else if first < 0xE0 then
        .character (Char.ofNat ((first.toNat - 0xC0) * 64 + continuationBits second)) 2
      else
        match rest with
        | [] => .malformed .endsEarly 2
        | third :: rest =>
          if !isContinuation third then .malformed .badContinuation 2
          else if first < 0xF0 then
            .character (Char.ofNat (((first.toNat - 0xE0) * 64 + continuationBits second) * 64
              + continuationBits third)) 3
          else
            match rest with
            | [] => .malformed .endsEarly 3
            | fourth :: _ =>
              if !isContinuation fourth then .malformed .badContinuation 3
              else
                .character (Char.ofNat ((((first.toNat - 0xF0) * 64 + continuationBits second) * 64
                  + continuationBits third) * 64 + continuationBits fourth)) 4

/-- Bytes in UTF-8 after the first `taken`, which belong to a part already read, with malformed parts replaced. -/
def lenientFrom : (taken : Nat) → List UInt8 → List Char
  | _, [] => []
  | taken + 1, _ :: rest => lenientFrom taken rest
  | 0, first :: rest =>
    match scanUtf8 first rest with
    | .character c size => c :: lenientFrom (size - 1) rest
    | .malformed _ size => replacementChar :: lenientFrom (size - 1) rest

/-- Bytes in UTF-8 with malformed parts replaced. -/
def lenientUtf8 (bytes : List UInt8) : List Char := lenientFrom 0 bytes

/-- A malformed part: the encoding it is malformed in, its place, its size, its first byte and its fault. -/
structure MalformedBytes where
  encoding : String
  position : Nat
  size : Nat
  first : UInt8
  fault : ByteFault
deriving DecidableEq, Repr

/-- A malformed part in words. -/
def MalformedBytes.message (malformed : MalformedBytes) : String :=
  "'" ++ malformed.encoding ++ "' codec can't decode byte"
    ++ (if malformed.size = 1 then
        " 0x" ++ String.ofList (hexDigits 2 malformed.first.toNat) ++ " in position " ++ toString malformed.position
      else
        "s in position " ++ toString malformed.position ++ "-" ++ toString (malformed.position + malformed.size - 1))
    ++ ": " ++ malformed.fault.message

/-- Whether bytes begin with half of a surrogate pair, which is no character but has a form of three bytes. -/
def isLoneHalf (first : UInt8) : List UInt8 → Bool
  | second :: third :: _ => first == 0xED && 0xA0 ≤ second && second < 0xC0 && isContinuation third
  | _ => false

/-- The half of a pair that three bytes write. -/
def loneHalf : List UInt8 → Nat
  | second :: third :: _ => 0xD000 + continuationBits second * 64 + continuationBits third
  | _ => 0

/-- The code points of sound bytes in UTF-8 from a place on, after the first `taken`, which belong to one already read.
Half of a surrogate pair passes. -/
def strictFrom : (position taken : Nat) → List UInt8 → Except MalformedBytes (List Nat)
  | _, _, [] => .ok []
  | position, taken + 1, _ :: rest => strictFrom (position + 1) taken rest
  | position, 0, first :: rest =>
    match scanUtf8 first rest with
    | .character c size => (strictFrom (position + 1) (size - 1) rest).map (c.toNat :: ·)
    | .malformed fault size =>
      if isLoneHalf first rest then (strictFrom (position + 1) 2 rest).map (loneHalf rest :: ·)
      else .error ⟨"utf-8", position, size, first, fault⟩

/-- The code points of sound bytes in UTF-8. -/
def strictUtf8 (bytes : List UInt8) : Except MalformedBytes (List Nat) := strictFrom 0 0 bytes

/-- Bytes of which each is a character. -/
def latin1 (bytes : List UInt8) : List Char := bytes.map fun byte => Char.ofNat byte.toNat

/-- The bytes of a text in UTF-8. -/
def utf8Bytes (s : String) : List UInt8 := s.toUTF8.toList

end Showcase.Text
