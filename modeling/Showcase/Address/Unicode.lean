import Showcase.Address.Label
import Showcase.Text.Basic
import Showcase.Text.Word

/-!
# Hosts outside ASCII

A label with characters outside ASCII is written in ASCII: a fixed beginning, the characters of ASCII in it, and then,
in ascending order of the others, how far each insertion lies from the one before. The distances are written in base 36
with digits whose weights adapt to the distances seen so far. A label that has the beginning already is read back, to see
that it is one.
-/

namespace Showcase.Address.Unicode

/-! ## Distances -/

/-- The digit of a value below 36. -/
def digit (n : Nat) : Char := if n < 26 then Char.ofNat (97 + n) else Char.ofNat (22 + n)

/-- The smallest value that needs another digit at a position. -/
def threshold (position bias : Nat) : Nat :=
  if position ≤ bias then 1 else if bias + 26 ≤ position then 26 else position - bias

/-- A distance in digits, from a position on. -/
def distanceDigits (bias : Nat) : (fuel : Nat) → (position distance : Nat) → List Char
  | 0, _, distance => [digit (distance % 36)]
  | fuel + 1, position, distance =>
    let least := threshold position bias
    if distance < least then [digit distance]
    else
      digit (least + (distance - least) % (36 - least))
        :: distanceDigits bias fuel (position + 36) ((distance - least) / (36 - least))

/-- Divide a distance by 35 until it is small, counting in steps of 36. -/
def scaleDown : (fuel : Nat) → (distance steps : Nat) → Nat × Nat
  | 0, distance, steps => (distance, steps)
  | fuel + 1, distance, steps =>
    if distance > 455 then scaleDown fuel (distance / 35) (steps + 36) else (distance, steps)

/-- The bias after a distance. -/
def adapted (distance count : Nat) (isFirst : Bool) : Nat :=
  let damped := if isFirst then distance / 700 else distance / 2
  let (scaled, steps) := scaleDown damped (damped + damped / count) 0
  steps + 36 * scaled / (scaled + 38)

/-! ## Writing labels -/

/-- An encoding under way: what is written, how many characters are, the distance so far and the bias. -/
structure Progress where
  written : List Char
  count : Nat
  distance : Nat
  bias : Nat

/-- Pass a character while those with one code point are inserted. -/
def Progress.pass (basicCount code : Nat) (progress : Progress) (c : Char) : Progress :=
  if c.toNat < code then { progress with distance := progress.distance + 1 }
  else if c.toNat == code then
    { written := progress.written ++ distanceDigits progress.bias (progress.distance + 1) 36 progress.distance
      count := progress.count + 1
      distance := 0
      bias := adapted progress.distance (progress.count + 1) (progress.count == basicCount) }
  else progress

/-- Insert code points in ascending order, the next not before `least`. -/
def insertAll (label : List Char) (basicCount : Nat) : (least : Nat) → List Nat → Progress → Progress
  | _, [], progress => progress
  | least, code :: codes, progress =>
    let started := { progress with distance := progress.distance + (code - least) * (progress.count + 1) }
    let passed := label.foldl (Progress.pass basicCount code) started
    insertAll label basicCount (code + 1) codes { passed with distance := passed.distance + 1 }

/-- Enter a number into an ascending list, once. -/
def insertOnce (n : Nat) : List Nat → List Nat
  | [] => [n]
  | first :: others =>
    if n < first then n :: first :: others else if n == first then first :: others else first :: insertOnce n others

/-- A label with characters outside ASCII, in ASCII. -/
def encodeLabel (label : List Char) : List Char :=
  let basic := label.filter (·.toNat < 128)
  let codes := (label.filter (·.toNat ≥ 128)).foldl (fun codes c => insertOnce c.toNat codes) []
  "xn--".toList ++ basic ++ (if basic.isEmpty then [] else ['-'])
    ++ (insertAll label basic.length 128 codes ⟨[], basic.length, 0, 72⟩).written

/-! ## Reading labels -/

/-- The value of a digit. -/
def digitValue? (c : Char) : Option Nat :=
  if 'a' ≤ c && c ≤ 'z' then some (c.toNat - 97) else if Text.isDigit c then some (c.toNat - 22) else none

/-- A decoding under way: the code points so far, the next one and the first place for it, the bias and whether a code
point has been inserted; and of the distance that is being read the position, what a digit counts there, and the sum. -/
structure Decoding where
  points : List Nat
  code : Nat
  place : Nat
  bias : Nat
  isFirst : Bool
  position : Nat
  weight : Nat
  distance : Nat

/-- Nothing but the characters of ASCII has been read. -/
def Decoding.start (basic : List Nat) : Decoding := ⟨basic, 128, 0, 72, true, 36, 1, 0⟩

/-- Insert a code point at a distance. Code points end. -/
def Decoding.insert? (decoding : Decoding) (distance : Nat) : Option Decoding :=
  let places := decoding.points.length + 1
  let reached := decoding.place + distance
  let code := decoding.code + reached / places
  let place := reached % places
  if code > 0x10FFFF then none
  else
    some {
      points := decoding.points.take place ++ code :: decoding.points.drop place
      code := code
      place := place + 1
      bias := adapted distance places decoding.isFirst
      isFirst := false
      position := 36
      weight := 1
      distance := 0 }

/-- Read a digit. The last one of a distance is small. -/
def Decoding.read? (decoding : Decoding) (digit : Nat) : Option Decoding :=
  let least := threshold decoding.position decoding.bias
  let distance := decoding.distance + digit * decoding.weight
  if digit < least then decoding.insert? distance
  else
    some { decoding with
      position := decoding.position + 36
      weight := decoding.weight * (36 - least)
      distance := distance }

/-- The code points of a label from what follows its beginning: digits after the last hyphen, if there is one, and before
it the characters of ASCII. -/
def decodeLabel? (content : List Char) : Option (List Nat) :=
  let (digits, basic?) := Text.cutAtFirst '-' content.reverse
  if digits.isEmpty then none
  else do
    let values ← digits.reverse.mapM digitValue?
    let decoding ← values.foldlM Decoding.read? (.start ((basic?.getD []).reverse.map Char.toNat))
    if decoding.position == 36 then some decoding.points else none

/-! ## Hosts -/

/-- The code points of a label. One of ASCII with the beginning of others stands for another one. -/
def pointsOf? (label : List Char) : Option (List Nat) :=
  if label.all (·.toNat < 128) && "xn--".toList.isPrefixOf label then decodeLabel? (label.drop 4)
  else some (label.map Char.toNat)

/-- A label in ASCII, if it may be one. -/
def asciiLabel? (label : List Char) : Option (List Char) :=
  let written := if label.all (·.toNat < 128) then label else encodeLabel label
  if (pointsOf? label).any Label.isLabel && written.length ≤ 63 then some written else none

/-- A host in ASCII, if all its labels may be labels and it is not too long. An empty label at the end stays. -/
def asciiHost? (host : List Char) : Option (List Char) :=
  let isDot (c : Char) : Bool := [0x3002, 0xFF0E, 0xFF61].contains c.toNat
  let labels := Text.splitAtChar '.' (host.map fun c => if isDot c then '.' else c)
  let named := if labels.getLast? == some [] then labels.dropLast else labels
  let isEnded := named.length < labels.length
  if named.isEmpty then none
  else
    ((named.mapM asciiLabel?).map fun written =>
      List.intercalate ['.'] (written ++ (if isEnded then [[]] else []))).filter
        (·.length ≤ if isEnded then 254 else 253)

end Showcase.Address.Unicode
