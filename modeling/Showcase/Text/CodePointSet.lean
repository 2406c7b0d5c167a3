/-!
# Sets of code points

A property of characters that follows no formula is a list of inclusive ranges of code points. Membership is the
one operation; the tables of the library are values of this type.
-/

namespace Showcase.Text

/-- A set of code points, as inclusive ranges. -/
abbrev CodePointSet := List (Nat × Nat)

/-- A code point belongs to the set when one of the ranges holds it. -/
def CodePointSet.holds (set : CodePointSet) (n : Nat) : Bool :=
  set.any fun range => range.1 ≤ n && n ≤ range.2

/-- The code points `first`, `first + step`, …, `last`. -/
structure CodePointRun where
  first : Nat
  last : Nat
  step : Nat

/-- A code point is on a run. -/
def CodePointRun.holds (run : CodePointRun) (n : Nat) : Bool :=
  run.first ≤ n && n ≤ run.last && (n - run.first) % run.step == 0

end Showcase.Text
