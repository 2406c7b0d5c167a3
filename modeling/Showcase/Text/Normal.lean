import Showcase.Text.Table.Composition
import Showcase.Text.Table.Mark

/-!
# The composed form

The same text has several spellings: a letter with a mark is one code point or two, and marks of different places follow
a letter in any order. In the composed form whatever can be one code point is one, and marks stand in the order of their
classes. Here this is so for code points that may stand in a label of a host; the parts of a syllable of Hangul are not
among them, so its syllables are taken as they are.
-/

namespace Showcase.Text

/-- The class of a mark, and 0 for a code point that waits for no other. -/
def combiningClass (n : Nat) : Nat :=
  ((Table.combiningRanges.find? fun (first, last, _) => first ≤ n && n ≤ last).map fun (_, _, place) => place).getD 0

/-- A code point taken apart. None is made of more than three. -/
def takenApart : (fuel : Nat) → Nat → List Nat
  | 0, n => [n]
  | fuel + 1, n =>
    match Table.compositions.find? fun (_, _, whole) => whole == n with
    | some (letter, mark, _) => takenApart fuel letter ++ [mark]
    | none => [n]

/-- Put a code point behind a text, whose last code point comes first. A mark goes before marks of higher classes. -/
def putMark (n : Nat) : List Nat → List Nat
  | [] => [n]
  | last :: before =>
    if combiningClass n != 0 && combiningClass n < combiningClass last then last :: putMark n before
    else n :: last :: before

/-- The one code point for a letter with a mark. -/
def composition? (letter mark : Nat) : Option Nat :=
  (Table.compositions.find? fun (first, second, _) => first == letter && second == mark).map fun (_, _, whole) => whole

/-- A text that is being composed: what is done, the letter that marks go to, and the marks that stay behind it. What
comes last is first. -/
structure Composing where
  done : List Nat
  letter : Option Nat
  marks : List Nat

/-- Add a code point: it becomes part of the letter unless another one of its class, or without one, stands between. -/
def Composing.add (composing : Composing) (n : Nat) : Composing :=
  let isNear := composing.marks.head?.all fun last => combiningClass last < combiningClass n
  match composing.letter.bind fun letter => if isNear then composition? letter n else none with
  | some whole => { composing with letter := some whole }
  | none =>
    if combiningClass n == 0 then ⟨composing.marks ++ composing.letter.toList ++ composing.done, some n, []⟩
    else { composing with marks := n :: composing.marks }

/-- What has been composed. -/
def Composing.text (composing : Composing) : List Nat :=
  (composing.marks ++ composing.letter.toList ++ composing.done).reverse

/-- The composed form of a text. -/
def composed (points : List Nat) : List Nat :=
  let ordered := ((points.flatMap (takenApart 2)).foldl (fun text n => putMark n text) []).reverse
  (ordered.foldl Composing.add ⟨[], none, []⟩).text

/-- A letter, a mark below it and one above, in the order that is not theirs. -/
example : composed [0x61, 0x302, 0x323] = [0x1EAD] := by decide +kernel

end Showcase.Text
