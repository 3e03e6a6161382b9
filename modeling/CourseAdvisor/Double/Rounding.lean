/-
This file rounds exact quotients to the nearest double.
-/

import CourseAdvisor.Double.Basic

namespace CourseAdvisor

namespace Double

/-- This is the whole number nearest to the quotient, the even one at a half. -/
def nearestWhole (numerator denominator : Nat) : Nat :=
  let quotient := numerator / denominator
  let doubled := 2 * (numerator % denominator)
  if denominator < doubled ∨ (doubled = denominator ∧ quotient % 2 = 1) then quotient + 1
  else quotient

/-- The nearest whole number stays at or below every whole bound of the quotient. -/
theorem nearestWholeBound {numerator denominator bound : Nat} (positive : 0 < denominator)
    (below : numerator < bound * denominator) : nearestWhole numerator denominator ≤ bound := by
  have quotientBelow : numerator / denominator < bound :=
    (Nat.div_lt_iff_lt_mul positive).mpr below
  unfold nearestWhole
  dsimp only
  split <;> omega

/-- A quotient of this size keeps its bits from this one upwards. -/
def spacing (quotient : Nat) : Nat := quotient.log2 - 52

/-- This is the precise count of units nearest to the quotient. -/
def nearestUnits (numerator denominator : Nat) : Nat :=
  let shift := spacing (numerator / denominator)
  nearestWhole numerator (denominator * Nat.pow 2 shift) * Nat.pow 2 shift

theorem preciseShifted {significand : Nat} (small : significand ≤ Nat.pow 2 53) (shift : Nat) :
    Precise (significand * Nat.pow 2 shift) := by
  unfold Precise
  rw [Nat.pow_eq] at small
  rw [Nat.pow_eq, Nat.pow_eq]
  by_cases isZero : significand = 0
  · simp [isZero]
  · apply Nat.mod_eq_zero_of_dvd
    have productNonzero : significand * 2 ^ shift ≠ 0 :=
      Nat.mul_ne_zero isZero (Nat.ne_of_gt (Nat.two_pow_pos shift))
    by_cases full : significand = 2 ^ 53
    · rw [full, ← Nat.pow_add, Nat.log2_two_pow]
      exact Nat.pow_dvd_pow 2 (by omega)
    · have strictlySmall : significand < 2 ^ 53 := by omega
      have logBelow : (significand * 2 ^ shift).log2 < 53 + shift := by
        rw [Nat.log2_lt productNonzero, Nat.pow_add]
        exact Nat.mul_lt_mul_of_pos_right strictlySmall (Nat.two_pow_pos shift)
      exact Nat.dvd_trans (Nat.pow_dvd_pow 2 (by omega)) (Nat.dvd_mul_left _ _)

/-- With its spacing a quotient is rounded to at most 53 significant bits. -/
theorem nearestSignificandBound (numerator : Nat) {denominator : Nat} (positive : 0 < denominator) :
    nearestWhole numerator (denominator * Nat.pow 2 (spacing (numerator / denominator))) ≤
      Nat.pow 2 53 := by
  have above : numerator / denominator < 2 ^ ((numerator / denominator).log2 + 1) :=
    Nat.lt_log2_self
  have widened : 2 ^ ((numerator / denominator).log2 + 1) ≤
      2 ^ 53 * 2 ^ spacing (numerator / denominator) := by
    rw [← Nat.pow_add]
    exact Nat.pow_le_pow_right (by decide) (by unfold spacing; omega)
  have product : numerator <
      Nat.pow 2 53 * Nat.pow 2 (spacing (numerator / denominator)) * denominator :=
    (Nat.div_lt_iff_lt_mul positive).mp (Nat.lt_of_lt_of_le above widened)
  refine nearestWholeBound (Nat.mul_pos positive ?positivePower) ?below
  case positivePower => exact Nat.two_pow_pos _
  case below =>
    calc numerator < _ := product
      _ = _ := by rw [Nat.mul_assoc, Nat.mul_comm denominator]

theorem nearestUnitsPrecise (numerator : Nat) {denominator : Nat} (positive : 0 < denominator) :
    Precise (nearestUnits numerator denominator) :=
  preciseShifted (nearestSignificandBound numerator positive) _

/-- This is the double nearest to a quotient of units, infinite from the limit on. -/
def ofUnits (negative : Bool) (numerator denominator : Nat) (positive : 0 < denominator) :
    Double :=
  if bounded : nearestUnits numerator denominator < limit then
    .finite negative ⟨nearestUnits numerator denominator, bounded,
      nearestUnitsPrecise numerator positive⟩
  else .infinite negative

/-- This is the double nearest to a quotient, ties going to the even significand. -/
def ofRatio (negative : Bool) (numerator denominator : Nat) (positive : 0 < denominator) :
    Double :=
  ofUnits negative (numerator * Nat.pow 2 scale) denominator positive

def ofNat (value : Nat) : Double := ofRatio false value 1 Nat.one_pos

end Double

end CourseAdvisor
