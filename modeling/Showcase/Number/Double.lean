/-!
# Numbers with a 53-bit significand

Fractional numbers are kept to 53 significant bits, with exponents from -1074 up; a result between two such numbers
goes to the nearer one, and to the one with an even significand when both are equally near. Everything is computed
with whole numbers, so the values can be evaluated in proofs.
-/

namespace Showcase

/-- A number `significand * 2 ^ exponent` with a sign, one of the infinities, or no number at all. -/
inductive Double where
  | finite (negative : Bool) (significand : Nat) (exponent : Int)
  | infinite (negative : Bool)
  | notANumber
deriving DecidableEq, Repr

namespace Double

/-! ## Rounding -/

/-- The quotient rounded to the nearest whole number, to the even one when two are equally near. -/
def roundedQuotient (numerator denominator : Nat) : Nat :=
  let quotient := numerator / denominator
  let twice := 2 * (numerator % denominator)
  if twice < denominator then quotient
  else if twice > denominator then quotient + 1
  else quotient + quotient % 2

/-- `numerator / denominator` divided by a power of two, rounded to the nearest whole number. -/
def scaledQuotient (numerator denominator : Nat) (exponent : Int) : Nat :=
  if exponent ≥ 0 then roundedQuotient numerator (denominator * Nat.pow 2 exponent.toNat)
  else roundedQuotient (numerator * Nat.pow 2 (-exponent).toNat) denominator

/-- The power of two of the last of 53 significant bits of `numerator / denominator`, at least -1074. -/
def unitExponent (numerator denominator : Nat) : Int :=
  let guess : Int := (numerator.log2 : Int) - denominator.log2 - 52
  let below := if guess ≥ 0 then numerator < denominator * Nat.pow 2 (guess.toNat + 52)
    else numerator * Nat.pow 2 (-guess).toNat < denominator * Nat.pow 2 52
  max (-1074) (if below then guess - 1 else guess)

/-- The number nearest to `numerator / denominator`. -/
def ofRatio (negative : Bool) (numerator denominator : Nat) : Double :=
  if numerator = 0 ∨ denominator = 0 then finite negative 0 0
  else
    let exponent := unitExponent numerator denominator
    let significand := scaledQuotient numerator denominator exponent
    if exponent + (if significand = Nat.pow 2 53 then 1 else 0) > 971 then infinite negative
    else finite negative significand exponent

/-- The number nearest to a whole number. -/
def ofInt (n : Int) : Double := ofRatio (n < 0) n.natAbs 1

/-- The number nearest to `digits * 10 ^ exponent`. A value beyond every finite number is infinite, and one below every
positive number is zero; the exponent decides both before any power is computed. -/
def ofDecimal (negative : Bool) (digits : Nat) (exponent : Int) : Double :=
  if digits = 0 then finite negative 0 0
  else if exponent > 400 then infinite negative
  else if exponent ≥ 0 then ofRatio negative (digits * Nat.pow 10 exponent.toNat) 1
  else if (digits.log2 : Int) + 1200 < -3 * exponent then finite negative 0 0
  else ofRatio negative digits (Nat.pow 10 (-exponent).toNat)

/-! ## Arithmetic -/

/-- The nearest number to the product. -/
def times : Double → Double → Double
  | finite n m e, finite n' m' e' =>
    if e + e' ≥ 0 then ofRatio (n != n') (m * m' * Nat.pow 2 (e + e').toNat) 1
    else ofRatio (n != n') (m * m') (Nat.pow 2 (-(e + e')).toNat)
  | finite n m _, infinite n' => if m = 0 then notANumber else infinite (n != n')
  | infinite n, finite n' m _ => if m = 0 then notANumber else infinite (n != n')
  | infinite n, infinite n' => infinite (n != n')
  | _, _ => notANumber

/-- The whole number reached by dropping the fraction; none for what is not finite. -/
def truncated? : Double → Option Int
  | finite negative significand exponent =>
    let size : Nat :=
      if exponent ≥ 0 then significand * Nat.pow 2 exponent.toNat else significand / Nat.pow 2 (-exponent).toNat
    some (if negative then -(size : Int) else size)
  | _ => none

/-- Whether a number is finite and has a fraction. -/
def hasFraction : Double → Bool
  | finite _ significand exponent => exponent < 0 && significand % Nat.pow 2 (-exponent).toNat != 0
  | _ => false

/-- Whether a number is finite. -/
def isFinite : Double → Bool
  | finite _ _ _ => true
  | _ => false

/-- Whether a number is zero, with either sign. -/
def isZero : Double → Bool
  | finite _ significand _ => significand == 0
  | _ => false

/-- Whether a number equals a whole number. -/
def isInt (x : Double) (n : Int) : Bool := !x.hasFraction && x.truncated? == some n

/-! ## Text -/

/-- A number written with one digit after the point, a half going to the even digit. -/
def toOnePlace : Double → String
  | finite negative significand exponent =>
    let tenths :=
      if exponent ≥ 0 then significand * 10 * Nat.pow 2 exponent.toNat
      else roundedQuotient (significand * 10) (Nat.pow 2 (-exponent).toNat)
    (if negative then "-" else "") ++ toString (tenths / 10) ++ "." ++ toString (tenths % 10)
  | infinite negative => if negative then "-inf" else "inf"
  | notANumber => "nan"

end Double

end Showcase
