import Showcase.Text.Table.Case
import Showcase.Text.Word

/-!
# Letter case

Lower case of a text and upper case of a character, for every script. Two mappings are not one character to one:
the dotted capital I becomes an i with a dot above, and some small letters become several capitals. One depends on
its place: a capital sigma at the end of a word becomes the final small sigma.
-/

namespace Showcase.Text

/-- The letter a run maps `n` to, when `n` is on the run. -/
def Table.CaseRun.apply (run : Table.CaseRun) (n : Nat) : Option Char :=
  if run.first ≤ n && n ≤ run.last && (n - run.first) % run.step == 0 then
    some (Char.ofNat (Int.toNat (n + run.distance)))
  else none

/-- Lower case of one character as one character: the dotted capital I loses its dot. -/
def lowerChar (c : Char) : Char :=
  if c.toNat < 128 then
    if isCapital c then Char.ofNat (c.toNat + 32) else c
  else if c.toNat == 0x130 then 'i'
  else (Table.lowerRuns.findSome? fun run => run.apply c.toNat).getD c

/-- Marks and word-internal punctuation are looked through when the neighbours of a sigma are sought. -/
def isCaseIgnorable (c : Char) : Bool :=
  if c.toNat < 128 then c.toNat == 0x27 || c == '.' || c == ':' || c == '^' || c.toNat == 0x60
  else Table.caseIgnorable.holds c.toNat

/-- Letters that have case. -/
def isCased (c : Char) : Bool :=
  if c.toNat < 128 then isLetter c else Table.cased.holds c.toNat

/-- Whether the first character that counts is a letter with case. -/
def startsCased (s : List Char) : Bool :=
  ((s.dropWhile isCaseIgnorable).head?).any isCased

/-- Lower case of the characters of `s`, which stand after the characters of `before`, nearest first. -/
def lowerAfter (before : List Char) : List Char → List Char
  | [] => []
  | c :: rest =>
    let small :=
      if c.toNat == 0x3A3 then
        [if startsCased before && !startsCased rest then Char.ofNat 0x3C2 else Char.ofNat 0x3C3]
      else if c.toNat == 0x130 then ['i', Char.ofNat 0x307]
      else [lowerChar c]
    small ++ lowerAfter (c :: before) rest

/-- Lower case of a text. -/
def lower (s : List Char) : List Char := lowerAfter [] s

/-- Upper case of one character, as the characters it becomes. -/
def upperChar (c : Char) : List Char :=
  if c.toNat < 128 then
    if 'a' ≤ c && c ≤ 'z' then [Char.ofNat (c.toNat - 32)] else [c]
  else
    match Table.upperSequences.lookup c.toNat with
    | some sequence => sequence.map Char.ofNat
    | none => [(Table.upperRuns.findSome? fun run => run.apply c.toNat).getD c]

end Showcase.Text
