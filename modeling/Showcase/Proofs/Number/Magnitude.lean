import Mathlib.Algebra.Order.Ring.Nat
import Showcase.Number.Double

/-!
# The magnitude of doubles

A finite double that a quotient is rounded to has a significand of at most 2 ^ 54 and an exponent of at most 971, so its
whole part is below 10 ^ 4300.
-/

namespace Showcase.Double

/-- A double that is not finite, or has a significand and an exponent within limits. -/
def IsModest : Double → Prop
  | finite _ significand exponent => significand ≤ 2 ^ 54 ∧ exponent ≤ 971
  | _ => True

theorem roundedQuotient_le (numerator denominator : Nat) :
    roundedQuotient numerator denominator ≤ numerator / denominator + 1 := by
  unfold roundedQuotient
  dsimp only
  split
  · omega
  · split <;> omega

/-- The exponent of the last significant bit is not far below that of the quotient. -/
theorem le_unitExponent (numerator denominator : Nat) :
    (numerator.log2 : Int) - denominator.log2 - 53 ≤ unitExponent numerator denominator := by
  unfold unitExponent
  dsimp only
  split <;> omega

/-- A quotient counted in the unit of its last significant bit has at most 54 bits. -/
theorem scaledQuotient_le {numerator denominator : Nat} (hdenominator : denominator ≠ 0) {exponent : Int}
    (hexponent : (numerator.log2 : Int) - denominator.log2 - 53 ≤ exponent) :
    scaledQuotient numerator denominator exponent ≤ 2 ^ 54 := by
  have hnumerator : numerator < 2 ^ (numerator.log2 + 1) := Nat.lt_log2_self
  have hlow : 2 ^ denominator.log2 ≤ denominator := Nat.log2_self_le hdenominator
  unfold scaledQuotient
  split
  · -- the denominator is scaled
    rename_i hpositive
    have hbits : numerator.log2 + 1 ≤ denominator.log2 + exponent.toNat + 54 := by omega
    have hbound : numerator < denominator * Nat.pow 2 exponent.toNat * 2 ^ 54 := by
      calc numerator < 2 ^ (numerator.log2 + 1) := hnumerator
        _ ≤ 2 ^ (denominator.log2 + exponent.toNat + 54) := Nat.pow_le_pow_right (by decide) hbits
        _ = 2 ^ denominator.log2 * 2 ^ exponent.toNat * 2 ^ 54 := by rw [Nat.pow_add, Nat.pow_add]
        _ ≤ denominator * 2 ^ exponent.toNat * 2 ^ 54 :=
          Nat.mul_le_mul_right _ (Nat.mul_le_mul_right _ hlow)
    have hquotient := Nat.div_lt_of_lt_mul hbound
    have hrounded := roundedQuotient_le numerator (denominator * Nat.pow 2 exponent.toNat)
    omega
  · -- the numerator is scaled
    rename_i hnegative
    have hbits : numerator.log2 + 1 + (-exponent).toNat ≤ denominator.log2 + 54 := by omega
    have hbound : numerator * Nat.pow 2 (-exponent).toNat < denominator * 2 ^ 54 := by
      calc numerator * 2 ^ (-exponent).toNat < 2 ^ (numerator.log2 + 1) * 2 ^ (-exponent).toNat :=
          Nat.mul_lt_mul_of_pos_right hnumerator (Nat.two_pow_pos _)
        _ = 2 ^ (numerator.log2 + 1 + (-exponent).toNat) := (Nat.pow_add _ _ _).symm
        _ ≤ 2 ^ (denominator.log2 + 54) := Nat.pow_le_pow_right (by decide) hbits
        _ = 2 ^ denominator.log2 * 2 ^ 54 := by rw [Nat.pow_add]
        _ ≤ denominator * 2 ^ 54 := Nat.mul_le_mul_right _ hlow
    have hquotient := Nat.div_lt_of_lt_mul hbound
    have hrounded := roundedQuotient_le (numerator * Nat.pow 2 (-exponent).toNat) denominator
    omega

theorem isModest_ofRatio (negative : Bool) (numerator denominator : Nat) :
    (ofRatio negative numerator denominator).IsModest := by
  unfold ofRatio
  split
  · exact ⟨Nat.zero_le _, by decide⟩
  · rename_i hnonzero
    dsimp only
    -- if rounding up carries into one more bit, the unit is doubled
    have hextra : (0 : Int) ≤ if scaledQuotient numerator denominator (unitExponent numerator denominator) =
        Nat.pow 2 53 then 1 else 0 := by
      split <;> decide
    generalize (if scaledQuotient numerator denominator (unitExponent numerator denominator) =
        Nat.pow 2 53 then (1 : Int) else 0) = extra at hextra ⊢
    split
    · trivial
    · exact ⟨scaledQuotient_le (fun h => hnonzero (.inr h)) (le_unitExponent numerator denominator), by omega⟩

theorem isModest_times (x y : Double) : (x.times y).IsModest := by
  unfold times
  split
  · split <;> exact isModest_ofRatio _ _ _
  · split <;> trivial
  · split <;> trivial
  · trivial
  · trivial

theorem two_pow_lt_ten_pow {bits digits : Nat} (h : bits < digits) : 2 ^ bits < 10 ^ digits :=
  Nat.lt_of_le_of_lt (Nat.pow_le_pow_left (by decide) _) (Nat.pow_lt_pow_right (by decide) h)

/-- The whole part of a double within these limits has at most 4300 digits. -/
theorem truncated?_lt {x : Double} (hx : x.IsModest) {n : Int} (h : x.truncated? = some n) :
    n.natAbs < 10 ^ 4300 := by
  -- the bound of the exponent is named, so that no power of it is worked out
  obtain ⟨top, htop⟩ : ∃ top, top = 971 := ⟨_, rfl⟩
  have hlarge : 2 ^ (54 + top) < 10 ^ 4300 := two_pow_lt_ten_pow (by omega)
  cases x with
  | finite negative significand exponent =>
    rcases hx with ⟨hsignificand, hexponent⟩
    have hsize : (if exponent ≥ 0 then significand * Nat.pow 2 exponent.toNat
        else significand / Nat.pow 2 (-exponent).toNat) ≤ 2 ^ (54 + top) := by
      split
      · rw [Nat.pow_add]
        exact Nat.mul_le_mul hsignificand (Nat.pow_le_pow_right (by decide) (by omega))
      · calc significand / Nat.pow 2 (-exponent).toNat ≤ significand := Nat.div_le_self _ _
          _ ≤ 2 ^ 54 := hsignificand
          _ ≤ 2 ^ (54 + top) := Nat.pow_le_pow_right (by decide) (by omega)
    simp only [truncated?, Option.some.injEq] at h
    have hn : n.natAbs = if exponent ≥ 0 then significand * Nat.pow 2 exponent.toNat
        else significand / Nat.pow 2 (-exponent).toNat := by
      rw [← h]
      split <;> simp only [Int.natAbs_neg, Int.natAbs_natCast]
    rw [hn]
    exact Nat.lt_of_le_of_lt hsize hlarge
  | infinite => cases h
  | notANumber => cases h

end Showcase.Double
