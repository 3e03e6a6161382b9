/-
This file proves that rounding keeps the order of exact quotients.
-/

import CourseAdvisor.Proofs.Double.ReadingBack

namespace CourseAdvisor.Double

variable {numerator denominator other divisor : Nat}

/-- A larger quotient has a larger whole part. -/
theorem div_le_div_of_ordered (positive : 0 < denominator) (otherPositive : 0 < divisor)
    (ordered : numerator * divisor ≤ other * denominator) :
    numerator / denominator ≤ other / divisor := by
  rw [Nat.le_div_iff_mul_le otherPositive]
  apply Nat.le_of_mul_le_mul_right _ positive
  calc numerator / denominator * divisor * denominator
      = numerator / denominator * denominator * divisor := Nat.mul_right_comm _ _ _
    _ ≤ numerator * divisor := Nat.mul_le_mul_right _ (Nat.div_mul_le_self _ _)
    _ ≤ other * denominator := ordered

/-- Of two quotients with the same whole part, the larger one has the larger fraction. -/
theorem mod_mul_le_of_ordered (same : numerator / denominator = other / divisor)
    (ordered : numerator * divisor ≤ other * denominator) :
    numerator % denominator * divisor ≤ other % divisor * denominator := by
  have first : numerator * divisor =
      denominator * divisor * (other / divisor) + numerator % denominator * divisor := by
    rw [← same, Nat.mul_right_comm, ← Nat.add_mul, Nat.div_add_mod]
  have second : other * denominator =
      denominator * divisor * (other / divisor) + other % divisor * denominator := by
    rw [Nat.mul_comm denominator, Nat.mul_right_comm, ← Nat.add_mul, Nat.div_add_mod]
  omega

/-- The fractions stay in order when they are doubled to be compared with the half. -/
theorem doubled_mod_le_of_ordered (same : numerator / denominator = other / divisor)
    (ordered : numerator * divisor ≤ other * denominator) :
    2 * (numerator % denominator) * divisor ≤ denominator * (2 * (other % divisor)) := by
  calc 2 * (numerator % denominator) * divisor
      = 2 * (numerator % denominator * divisor) := Nat.mul_assoc _ _ _
    _ ≤ 2 * (other % divisor * denominator) :=
        Nat.mul_le_mul_left _ (mod_mul_le_of_ordered same ordered)
    _ = denominator * (2 * (other % divisor)) := by rw [← Nat.mul_assoc, Nat.mul_comm]

/-- A quotient is rounded up by less than one. -/
theorem nearestWhole_le_succ (numerator denominator : Nat) :
    nearestWhole numerator denominator ≤ numerator / denominator + 1 := by
  unfold nearestWhole
  dsimp only
  split <;> omega

/-- A larger quotient has a larger nearest whole number. -/
theorem nearestWhole_mono (positive : 0 < denominator) (otherPositive : 0 < divisor)
    (ordered : numerator * divisor ≤ other * denominator) :
    nearestWhole numerator denominator ≤ nearestWhole other divisor := by
  have wholes := div_le_div_of_ordered positive otherPositive ordered
  obtain below | same := Nat.lt_or_eq_of_le wholes
  · calc nearestWhole numerator denominator
        ≤ numerator / denominator + 1 := nearestWhole_le_succ numerator denominator
      _ ≤ other / divisor := below
      _ ≤ nearestWhole other divisor := div_le_nearestWhole other divisor
  -- With the same whole part the fractions decide, and a fraction past the half stays past it.
  have doubled := doubled_mod_le_of_ordered same ordered
  have half (reached : denominator ≤ 2 * (numerator % denominator)) :
      divisor ≤ 2 * (other % divisor) := by
    apply Nat.le_of_mul_le_mul_left _ positive
    exact Nat.le_trans (Nat.mul_le_mul_right _ reached) doubled
  have pastHalf (passed : denominator < 2 * (numerator % denominator)) :
      divisor < 2 * (other % divisor) := by
    apply Nat.lt_of_mul_lt_mul_left
    exact Nat.lt_of_lt_of_le (Nat.mul_lt_mul_of_pos_right passed otherPositive) doubled
  unfold nearestWhole
  dsimp only
  rw [same]
  split
  case isTrue up =>
      have upper : divisor < 2 * (other % divisor) ∨
          (2 * (other % divisor) = divisor ∧ other / divisor % 2 = 1) := by
        rcases up with passed | ⟨tied, odd⟩
        · exact .inl (pastHalf passed)
        · have reached := half (by omega)
          omega
      rw [if_pos upper]
  case isFalse => split <;> omega

/-- Larger quotients have a wider spacing. -/
theorem spacing_mono {quotient larger : Nat} (ordered : quotient ≤ larger) :
    spacing quotient ≤ spacing larger := by
  unfold spacing
  apply Nat.sub_le_sub_right
  by_cases zero : quotient = 0
  · rw [zero]
    exact Nat.zero_le _
  · rw [Nat.le_log2 (by omega)]
    exact Nat.le_trans (Nat.log2_self_le zero) ordered

/-- The nearest count stays within the 53 bits that the spacing leaves. -/
theorem nearestUnits_le (positive : 0 < denominator) :
    nearestUnits numerator denominator ≤ 2 ^ (53 + spacing (numerator / denominator)) := by
  rw [Nat.pow_add]
  exact Nat.mul_le_mul_right _ (nearestSignificandBound numerator positive)

/-- A larger quotient has a larger nearest count of units. -/
theorem nearestUnits_mono (positive : 0 < denominator) (otherPositive : 0 < divisor)
    (ordered : numerator * divisor ≤ other * denominator) :
    nearestUnits numerator denominator ≤ nearestUnits other divisor := by
  have wholes := div_le_div_of_ordered positive otherPositive ordered
  obtain narrower | same := Nat.lt_or_eq_of_le (spacing_mono wholes)
  · -- A power of two lies between the quotients, and neither is rounded beyond it.
    have bits : (other / divisor).log2 = 52 + spacing (other / divisor) := by
      unfold spacing at narrower ⊢
      omega
    have nonzero : other / divisor ≠ 0 := by
      intro zero
      rw [zero, Nat.log2_zero] at bits
      omega
    calc nearestUnits numerator denominator
        ≤ 2 ^ (53 + spacing (numerator / denominator)) := nearestUnits_le positive
      _ ≤ 2 ^ (other / divisor).log2 := Nat.pow_le_pow_right (by decide) (by omega)
      _ ≤ nearestUnits other divisor := pow_le_nearestUnits (Nat.log2_self_le nonzero)
  · unfold nearestUnits
    dsimp only
    rw [same]
    apply Nat.mul_le_mul_right
    apply nearestWhole_mono (Nat.mul_pos positive (Nat.two_pow_pos _))
      (Nat.mul_pos otherPositive (Nat.two_pow_pos _))
    rw [← Nat.mul_assoc, ← Nat.mul_assoc]
    exact Nat.mul_le_mul_right _ ordered

theorem le_trans {low middle high : Double} (first : low ≤ middle) (second : middle ≤ high) :
    low ≤ high := by
  obtain ⟨left, isLeft, inner, isInner, below⟩ := first
  obtain ⟨place, isPlace, right, isRight, above⟩ := second
  obtain rfl := Option.some.inj (isInner.symm.trans isPlace)
  exact ⟨left, isLeft, right, isRight, Int.le_trans below above⟩

theorem lt_of_lt_of_le {low middle high : Double} (first : low < middle)
    (second : middle ≤ high) : low < high := by
  obtain ⟨left, isLeft, inner, isInner, below⟩ := first
  obtain ⟨place, isPlace, right, isRight, above⟩ := second
  obtain rfl := Option.some.inj (isInner.symm.trans isPlace)
  exact ⟨left, isLeft, right, isRight, Int.lt_of_lt_of_le below above⟩

theorem not_le_of_lt {low high : Double} (below : low < high) : ¬high ≤ low := by
  obtain ⟨left, isLeft, right, isRight, less⟩ := below
  rintro ⟨place, isPlace, other, isOther, atMost⟩
  obtain rfl := Option.some.inj (isRight.symm.trans isPlace)
  obtain rfl := Option.some.inj (isLeft.symm.trans isOther)
  omega

/-- This is the place of a rounded quotient. Beyond the largest double all places are the same. -/
theorem ofRatio_position? (positive : 0 < denominator) :
    (ofRatio false numerator denominator positive).position? =
      some ↑(min (nearestUnits (numerator * 2 ^ scale) denominator) limit) := by
  unfold ofRatio ofUnits
  rw [Nat.pow_eq]
  split
  case isTrue bounded => rw [Nat.min_eq_left (Nat.le_of_lt bounded)]; rfl
  case isFalse beyond => rw [Nat.min_eq_right (Nat.le_of_not_lt beyond)]; rfl

/-- Rounded quotients are in the order of the exact ones. -/
theorem ofRatio_mono (positive : 0 < denominator) (otherPositive : 0 < divisor)
    (ordered : numerator * divisor ≤ other * denominator) :
    ofRatio false numerator denominator positive ≤ ofRatio false other divisor otherPositive := by
  have scaled : numerator * 2 ^ scale * divisor ≤ other * 2 ^ scale * denominator := by
    rw [Nat.mul_right_comm, Nat.mul_right_comm other]
    exact Nat.mul_le_mul_right _ ordered
  have units := nearestUnits_mono positive otherPositive scaled
  refine ⟨_, ofRatio_position? positive, _, ofRatio_position? otherPositive, ?_⟩
  omega

end CourseAdvisor.Double
