/-
This file scales doubles by powers of ten, where every step rounds on its own.
-/

import CourseAdvisor.Double.Decimal

namespace CourseAdvisor

namespace Double

/-- A quotient of at least one is never rounded down to nothing. -/
theorem nearestUnitsPositive {numerator denominator : Nat} (positive : 0 < denominator)
    (atLeastOne : denominator ≤ numerator) : 0 < nearestUnits numerator denominator := by
  have quotientPositive : 0 < numerator / denominator := Nat.div_pos atLeastOne positive
  have powerBelow : 2 ^ spacing (numerator / denominator) ≤ numerator / denominator :=
    Nat.le_trans (Nat.pow_le_pow_right (by decide) (Nat.sub_le _ _))
      (Nat.log2_self_le (Nat.ne_of_gt quotientPositive))
  have shiftedPositive :
      0 < numerator / (denominator * 2 ^ spacing (numerator / denominator)) := by
    rw [← Nat.div_div_eq_div_mul]
    exact Nat.div_pos powerBelow (Nat.two_pow_pos _)
  apply Nat.mul_pos ?wholePositive (Nat.two_pow_pos _)
  unfold nearestWhole
  dsimp only
  rw [Nat.pow_eq]
  split <;> omega

theorem powerOfTwoPositive (exponent : Nat) : 0 < Nat.pow 2 exponent := Nat.two_pow_pos exponent

/-- This is the precise count of units nearest to a whole number. -/
def wholeUnits (value : Nat) : Nat := nearestUnits (value * Nat.pow 2 scale) 1

/-- This is the precise count of units nearest to a power of ten. -/
def powerUnits (exponent : Nat) : Nat := wholeUnits (Nat.pow 10 exponent)

theorem powerUnitsPositive (exponent : Nat) : 0 < powerUnits exponent :=
  nearestUnitsPositive Nat.one_pos
    (Nat.mul_pos (Nat.pow_pos (by decide)) (powerOfTwoPositive scale))

/-- This is the double nearest to the product of a count of units and a power of ten. -/
def timesPower (negative : Bool) (units exponent : Nat) : Double :=
  ofUnits negative (units * powerUnits exponent) (Nat.pow 2 scale) (powerOfTwoPositive scale)

/-- This is the precise count of units nearest to the quotient by a power of ten. -/
def unitsDividedByPower (units exponent : Nat) : Nat :=
  nearestUnits (units * Nat.pow 2 scale) (powerUnits exponent)

/-- This is the double nearest to the quotient of a count of units by a power of ten. -/
def dividedByPower (negative : Bool) (units exponent : Nat) : Double :=
  ofRatio negative units (powerUnits exponent) (powerUnitsPositive exponent)

end Double

namespace Decimal

/-- Beyond this exponent every power of ten is larger than the largest double. -/
def lastPower : Nat := 308

/-- The digits become a double first, and each power of ten is applied to a double and rounds
again, so the outcome may miss the nearest double. -/
def scaled (negative : Bool) (decimal : Decimal) : Double :=
  let units := Double.wholeUnits decimal.digits
  match decimal.exponent with
  | .ofNat exponent =>
      if exponent ≤ lastPower then Double.timesPower negative units exponent
      else if decimal.digits = 0 then .finite negative .zero
      else .infinite negative
  | .negSucc below =>
      let exponent := below + 1
      if exponent ≤ lastPower then Double.dividedByPower negative units exponent
      else if exponent ≤ 2 * lastPower then
        let lowered := Double.unitsDividedByPower units lastPower
        Double.dividedByPower negative lowered (exponent - lastPower)
      else .finite negative .zero

end Decimal

end CourseAdvisor
