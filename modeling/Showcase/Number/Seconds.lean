import Showcase.Number.Double

/-!
# Times in seconds

A time is given as a whole number or as a double, and keeps its kind: the product of a whole time with a count is exact,
that of a fractional time is rounded.
-/

namespace Showcase

/-- A time in seconds, whole or fractional. -/
inductive Seconds where
  | whole (n : Int)
  | fractional (x : Double)
deriving DecidableEq, Repr

namespace Seconds

/-- A time as a number. -/
def toDouble : Seconds → Double
  | whole n => Double.ofInt n
  | fractional x => x

/-- A time in milliseconds, without the fraction. What is not finite does not come to a whole number. -/
def milliseconds? : Seconds → Option Int
  | whole n => some (n * 1000)
  | fractional x => (x.times (Double.ofInt 1000)).truncated?

/-- What a time in milliseconds is called that is no whole number. -/
def unboundedName : Seconds → String
  | fractional .notANumber => "NaN"
  | _ => "infinity"

/-- So many times a time, with one digit after the point. -/
def multipleText (count : Int) : Seconds → String
  | whole n => (Double.ofInt (count * n)).toOnePlace
  | fractional x => ((Double.ofInt count).times x).toOnePlace

end Seconds

end Showcase
