import Showcase.Text.Normal
import Showcase.Text.Table.Label
import Showcase.Text.Table.Neighbour

/-!
# Labels

A host outside ASCII is made of labels. A label is in the composed form, has hyphens neither at its ends nor as its third
and fourth code point, and begins with no mark. Most code points may stand in it or may not; some may where their
neighbours allow it. If a letter is written from the right to the left, all of them are.
-/

namespace Showcase.Address.Label

open Text

/-! ## Places -/

/-- A code point may stand in a label wherever it is. -/
def isFree (n : Nat) : Bool :=
  if n < 128 then n == 0x2D || (0x30 ≤ n && n ≤ 0x39) || (0x61 ≤ n && n ≤ 0x7A)
  else Table.labelRuns.any (·.holds n)

/-- Letters join across a code point as if it were not there. -/
def isTransparent (n : Nat) : Bool :=
  (Table.spacelessMarks.holds n && n != 0x1171E) || [0xCBF, 0xCC6, 0x11A07, 0x11A08, 0x11C3F, 0x1E94B].contains n

/-- The first letter, going away from a joiner, joins. -/
def joins (kind : CodePointSet) (points : List Nat) : Bool :=
  match points.dropWhile isTransparent with
  | [] => false
  | first :: _ => Table.dualJoining.holds first || kind.holds first

/-- A mark that takes the vowel from a letter is the last of a text, which comes first. -/
def endsSilent (before : List Nat) : Bool := before.head?.any fun n => combiningClass n == 9

/-- A code point may stand in a label between what is before it, the last first, and what is after it. -/
def mayStand (label before : List Nat) (n : Nat) (after : List Nat) : Bool :=
  if isFree n then true
  else if n == 0x200C then endsSilent before || (joins Table.leftJoining before && joins Table.rightJoining after)
  else if n == 0x200D then endsSilent before
  else if n == 0xB7 then before.head? == some 0x6C && after.head? == some 0x6C
  else if n == 0x375 then after.head?.any Table.greek.holds
  else if n == 0x5F3 || n == 0x5F4 then before.head?.any Table.hebrew.holds
  else if n == 0x30FB then label.any Table.eastAsian.holds
  else if 0x660 ≤ n && n ≤ 0x669 then label.all fun other => !(0x6F0 ≤ other && other ≤ 0x6F9)
  else if 0x6F0 ≤ n && n ≤ 0x6F9 then label.all fun other => !(0x660 ≤ other && other ≤ 0x669)
  else false

/-- All code points may stand where they stand, from one on. -/
def allStand (label : List Nat) : (before : List Nat) → List Nat → Bool
  | _, [] => true
  | before, n :: after => mayStand label before n after && allStand label (n :: before) after

/-! ## Directions -/

/-- A letter that is written from the left to the right. -/
def isLeftward (n : Nat) : Bool :=
  !(Table.rightward.holds n || Table.arabicNumbers.holds n || Table.europeanNumbers.holds n || Table.neutral.holds n
    || Table.spacelessMarks.holds n)

/-- No letter is written from the right to the left, or else all are: the first is such a letter, marks apart the last is
one or a digit, and the digits are of one kind. -/
def keepsDirection (label : List Nat) : Bool :=
  if label.any fun n => Table.rightward.holds n || Table.arabicNumbers.holds n then
    let last? := label.reverse.find? fun n => !Table.spacelessMarks.holds n
    label.head?.any Table.rightward.holds
      && !label.any isLeftward
      && last?.any (fun n => Table.rightward.holds n || Table.arabicNumbers.holds n || Table.europeanNumbers.holds n)
      && !(label.any Table.arabicNumbers.holds && label.any Table.europeanNumbers.holds)
  else true

/-! ## Labels -/

/-- The code points are those of a label. -/
def isLabel (label : List Nat) : Bool :=
  let hyphen := 0x2D
  let isHyphenated := label.head? == some hyphen || label.getLast? == some hyphen
    || (label.drop 2).take 2 == [hyphen, hyphen]
  let beginsWithMark := label.head?.any fun n => Table.spacelessMarks.holds n || Table.directedMarks.holds n
  !label.isEmpty && composed label == label && !isHyphenated && !beginsWithMark && allStand label [] label
    && keepsDirection label

end Showcase.Address.Label
