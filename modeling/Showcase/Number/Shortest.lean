import Showcase.Number.Double

/-!
# The shortest decimal

A number is written with the fewest digits that read back as it. For each count of digits the two decimals of that
count beside the number are tried, the nearer one first; the first count with a decimal that rounds to the number
gives the digits. Numbers from 0.0001 up to 10^16 are written with a point, others with an exponent of at least two
digits.
-/

namespace Showcase.Double

/-- The largest power of ten that is at most `numerator / denominator`, sought from `guess` in steps of one. -/
def decimalExponent (numerator denominator : Nat) : Int :=
  let atMost (e : Int) : Bool :=
    if e ≥ 0 then denominator * Nat.pow 10 e.toNat ≤ numerator else denominator ≤ numerator * Nat.pow 10 (-e).toNat
  let guess : Int := (((numerator.log2 : Int) - denominator.log2) * 30103 / 100000) + 2
  if atMost guess then guess
  else if atMost (guess - 1) then guess - 1
  else if atMost (guess - 2) then guess - 2
  else if atMost (guess - 3) then guess - 3
  else guess - 4

/-- Digits and exponent of a decimal with `count` digits that rounds to the number, if there is one. -/
def decimalOfCount? (value : Double) (numerator denominator : Nat) (top : Int) (count : Nat) : Option (Nat × Int) :=
  let exponent := top - count + 1
  let below :=
    if exponent ≥ 0 then numerator / (denominator * Nat.pow 10 exponent.toNat)
    else numerator * Nat.pow 10 (-exponent).toNat / denominator
  let nearest :=
    if exponent ≥ 0 then roundedQuotient numerator (denominator * Nat.pow 10 exponent.toNat)
    else roundedQuotient (numerator * Nat.pow 10 (-exponent).toNat) denominator
  let other := if nearest = below then below + 1 else below
  if ofDecimal false nearest exponent == value then some (nearest, exponent)
  else if ofDecimal false other exponent == value then some (other, exponent)
  else none

/-- Digits and exponent of the shortest decimal that rounds to a positive number. -/
def shortestDecimal (significand : Nat) (exponent : Int) : Nat × Int :=
  let numerator := if exponent ≥ 0 then significand * Nat.pow 2 exponent.toNat else significand
  let denominator := if exponent ≥ 0 then 1 else Nat.pow 2 (-exponent).toNat
  let value := ofRatio false numerator denominator
  let top := decimalExponent numerator denominator
  ((List.range 17).findSome? fun n => decimalOfCount? value numerator denominator top (n + 1)).getD
    (roundedQuotient numerator denominator, 0)

/-- Drop the zeros at the end of the digits, raising the exponent by one for each. -/
def dropZeros : (fuel : Nat) → Nat → Int → Nat × Int
  | 0, digits, exponent => (digits, exponent)
  | fuel + 1, digits, exponent =>
    if digits % 10 = 0 ∧ digits ≠ 0 then dropZeros fuel (digits / 10) (exponent + 1) else (digits, exponent)

/-- A positive number as text. -/
def positiveText (significand : Nat) (exponent : Int) : String :=
  let (shortest, shortestExponent) := shortestDecimal significand exponent
  let (digits, power) := dropZeros 20 shortest shortestExponent
  let text := (toString digits).toList
  let top := power + text.length - 1
  if top < -4 ∨ top ≥ 16 then
    let fraction := text.drop 1
    let size := toString top.natAbs
    String.ofList (text.take 1 ++ (if fraction.isEmpty then [] else '.' :: fraction))
      ++ (if top < 0 then "e-" else "e+") ++ (if size.length < 2 then "0" ++ size else size)
  else if power ≥ 0 then String.ofList (text ++ List.replicate power.toNat '0') ++ ".0"
  else if top ≥ 0 then
    String.ofList (text.take (top.toNat + 1) ++ '.' :: text.drop (top.toNat + 1))
  else
    String.ofList ('0' :: '.' :: List.replicate (-top - 1).toNat '0' ++ text)

/-- A number as text. -/
def toText : Double → String
  | finite negative significand exponent =>
    (if negative then "-" else "") ++ (if significand = 0 then "0.0" else positiveText significand exponent)
  | infinite negative => if negative then "-Infinity" else "Infinity"
  | notANumber => "NaN"

end Showcase.Double
