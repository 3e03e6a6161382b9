/-
This file proves that rounding depends on the exact value alone, and that every magnitude is the
nearest one to its shortest decimal.
-/

import Mathlib.Algebra.Group.Nat.Defs
import CourseAdvisor.Proofs.Json.WrittenNumbers

namespace CourseAdvisor

namespace Double

theorem limit_eq : limit = 2 ^ (1024 + scale) := by decide +kernel

theorem nearestWhole_mul {denominator : Nat} (positive : 0 < denominator) (value : Nat) :
    nearestWhole (value * denominator) denominator = value := by
  unfold nearestWhole
  rw [Nat.mul_div_cancel _ positive, Nat.mul_mod_left]
  dsimp only
  rw [if_neg (by omega)]

/-- A common factor does not matter for the nearest whole number. -/
theorem nearestWhole_scale {factor : Nat} (positive : 0 < factor) (numerator denominator : Nat) :
    nearestWhole (numerator * factor) (denominator * factor) =
      nearestWhole numerator denominator := by
  unfold nearestWhole
  rw [Nat.mul_div_mul_right _ _ positive, Nat.mul_mod_mul_right]
  dsimp only
  simp only [← Nat.mul_assoc, Nat.mul_lt_mul_right positive,
    Nat.mul_left_inj (Nat.ne_of_gt positive)]

theorem nearestUnits_scale {factor : Nat} (positive : 0 < factor) (numerator denominator : Nat) :
    nearestUnits (numerator * factor) (denominator * factor) =
      nearestUnits numerator denominator := by
  unfold nearestUnits
  rw [Nat.mul_div_mul_right _ _ positive]
  dsimp only
  rw [Nat.mul_right_comm denominator factor, nearestWhole_scale positive]

/-- Equal quotients round to the same double. -/
theorem ofRatio_congr (negative : Bool) {numerator denominator other divisor : Nat}
    (positive : 0 < denominator) (otherPositive : 0 < divisor)
    (same : numerator * divisor = other * denominator) :
    ofRatio negative numerator denominator positive =
      ofRatio negative other divisor otherPositive := by
  have units : nearestUnits (numerator * Nat.pow 2 scale) denominator =
      nearestUnits (other * Nat.pow 2 scale) divisor := by
    rw [← nearestUnits_scale otherPositive, ← nearestUnits_scale positive (other * Nat.pow 2 scale),
      Nat.mul_right_comm, same, Nat.mul_right_comm other, Nat.mul_comm denominator]
  unfold ofRatio ofUnits
  simp only [units]

/-- A precise count of units is its own nearest one. -/
theorem nearestUnits_exact {units denominator : Nat} (precise : Precise units)
    (positive : 0 < denominator) : nearestUnits (units * denominator) denominator = units := by
  have whole : units / 2 ^ spacing units * 2 ^ spacing units = units :=
    Nat.div_mul_cancel (Nat.dvd_of_mod_eq_zero precise)
  have spaced : units * denominator =
      units / 2 ^ spacing units * (denominator * 2 ^ spacing units) := by
    rw [Nat.mul_comm denominator, ← Nat.mul_assoc, whole]
  unfold nearestUnits
  rw [Nat.mul_div_cancel _ positive]
  dsimp only
  rw [Nat.pow_eq, spaced, nearestWhole_mul (Nat.mul_pos positive (Nat.two_pow_pos _)), whole]

/-- What is below half a unit is nearest to zero. -/
theorem nearestUnits_vanishing {numerator denominator : Nat} (small : 2 * numerator < denominator) :
    nearestUnits numerator denominator = 0 := by
  have below : numerator < denominator := by omega
  have spaced : spacing (numerator / denominator) = 0 := by
    rw [Nat.div_eq_of_lt below]
    rfl
  have whole : nearestWhole numerator denominator = 0 := by
    unfold nearestWhole
    rw [Nat.div_eq_of_lt below, Nat.mod_eq_of_lt below]
    dsimp only
    rw [if_neg (by omega)]
  unfold nearestUnits
  dsimp only
  rw [spaced, Nat.pow_eq, Nat.pow_zero, Nat.mul_one, Nat.mul_one, whole]

/-- Rounding never goes below the whole part of a quotient. -/
theorem div_le_nearestWhole (numerator denominator : Nat) :
    numerator / denominator ≤ nearestWhole numerator denominator := by
  unfold nearestWhole
  dsimp only
  split <;> omega

/-- Rounding never goes below a power of two. -/
theorem pow_le_nearestUnits {bits numerator denominator : Nat}
    (large : 2 ^ bits ≤ numerator / denominator) :
    2 ^ bits ≤ nearestUnits numerator denominator := by
  generalize isShift : spacing (numerator / denominator) = shift
  have rounded : numerator / (denominator * 2 ^ shift) ≤
      nearestWhole numerator (denominator * 2 ^ shift) := div_le_nearestWhole _ _
  have nonzero : numerator / denominator ≠ 0 :=
    Nat.ne_of_gt (Nat.lt_of_lt_of_le (Nat.two_pow_pos bits) large)
  have top : 2 ^ (numerator / denominator).log2 =
      2 ^ ((numerator / denominator).log2 - shift) * 2 ^ shift := by
    rw [← Nat.pow_add, Nat.sub_add_cancel]
    rw [← isShift]
    exact Nat.sub_le _ _
  have kept : 2 ^ ((numerator / denominator).log2 - shift) ≤
      numerator / (denominator * 2 ^ shift) := by
    rw [← Nat.div_div_eq_div_mul, Nat.le_div_iff_mul_le (Nat.two_pow_pos _), ← top]
    exact Nat.log2_self_le nonzero
  calc 2 ^ bits ≤ 2 ^ (numerator / denominator).log2 :=
        Nat.pow_le_pow_right (by decide) ((Nat.le_log2 nonzero).mpr large)
    _ = 2 ^ ((numerator / denominator).log2 - shift) * 2 ^ shift := top
    _ ≤ nearestWhole numerator (denominator * 2 ^ shift) * 2 ^ shift :=
        Nat.mul_le_mul_right _ (Nat.le_trans kept rounded)
    _ = nearestUnits numerator denominator := by
        unfold nearestUnits
        rw [isShift]
        rfl

/-- A quotient is read as the magnitude that it is nearest to. -/
theorem ofRatio_finite (negative : Bool) {numerator denominator : Nat}
    (positive : 0 < denominator) {magnitude : Magnitude}
    (nearest : nearestUnits (numerator * 2 ^ scale) denominator = magnitude.units) :
    ofRatio negative numerator denominator positive = .finite negative magnitude := by
  unfold ofRatio ofUnits
  simp only [Nat.pow_eq, nearest, magnitude.bounded, dite_true]

theorem ofRatio_infinite (negative : Bool) {numerator denominator : Nat}
    (positive : 0 < denominator)
    (beyond : limit ≤ nearestUnits (numerator * 2 ^ scale) denominator) :
    ofRatio negative numerator denominator positive = .infinite negative := by
  unfold ofRatio ofUnits
  simp only [Nat.pow_eq, Nat.not_lt.mpr beyond, dite_false]

end Double

namespace Decimal

/-- This is the double nearest to a decimal, without any shortcut. -/
def nearest (negative : Bool) (decimal : Decimal) : Double :=
  Double.ofRatio negative (decimal.digits * 10 ^ decimal.exponent.toNat)
    (10 ^ (-decimal.exponent).toNat) (Nat.pow_pos (by decide))

theorem nearest_zero (negative : Bool) {decimal : Decimal} (zero : decimal.digits = 0) :
    decimal.nearest negative = .finite negative .zero := by
  refine Double.ofRatio_finite negative _ (Double.nearestUnits_vanishing ?_)
  rw [zero, Nat.zero_mul, Nat.zero_mul]
  exact Nat.pow_pos (by decide)

/-- A digit is worth more than three bits. -/
theorem two_pow_le_ten_pow {bits digits : Nat} (enough : bits ≤ 3 * digits) :
    2 ^ bits ≤ 10 ^ digits := by
  calc 2 ^ bits ≤ 2 ^ (3 * digits) := Nat.pow_le_pow_right (by decide) enough
    _ = 8 ^ digits := Nat.pow_mul 2 3 digits
    _ ≤ 10 ^ digits := Nat.pow_le_pow_left (by decide) digits

/-- From `10 ^ 400` on every decimal is beyond the largest double. -/
theorem nearest_beyond (negative : Bool) {decimal : Decimal} (nonzero : decimal.digits ≠ 0)
    (far : beyond ≤ decimal.exponent) : decimal.nearest negative = .infinite negative := by
  unfold beyond at far
  have whole : (-decimal.exponent).toNat = 0 := by omega
  refine Double.ofRatio_infinite negative _ ?_
  rw [whole, Nat.pow_zero]
  have large {bits : Nat} (enough : bits ≤ 3 * decimal.exponent.toNat) :
      2 ^ (bits + Double.scale) ≤
        decimal.digits * 10 ^ decimal.exponent.toNat * 2 ^ Double.scale / 1 := by
    rw [Nat.div_one, Nat.pow_add]
    apply Nat.mul_le_mul_right
    exact Nat.le_trans (two_pow_le_ten_pow enough)
      (Nat.le_mul_of_pos_left _ (Nat.pos_of_ne_zero nonzero))
  rw [Double.limit_eq]
  exact Double.pow_le_nearestUnits (large (by omega))

/-- A decimal that is small enough is nearest to zero. -/
theorem nearest_vanishing (negative : Bool) {decimal : Decimal}
    (tiny : decimal.digits.log2 + 3 * decimal.exponent < vanishing) :
    decimal.nearest negative = .finite negative .zero := by
  unfold vanishing at tiny
  have fraction : decimal.exponent.toNat = 0 := by omega
  have below : decimal.digits < 2 ^ (decimal.digits.log2 + 1) := Nat.lt_log2_self
  refine Double.ofRatio_finite negative _ (Double.nearestUnits_vanishing ?_)
  rw [fraction, Nat.pow_zero, Nat.mul_one]
  calc 2 * (decimal.digits * 2 ^ Double.scale)
      < 2 * (2 ^ (decimal.digits.log2 + 1) * 2 ^ Double.scale) := by
        have scaled := Nat.mul_lt_mul_of_pos_right below (Nat.two_pow_pos Double.scale)
        omega
    _ = 2 ^ (decimal.digits.log2 + 1 + Double.scale + 1) := by
        rw [← Nat.pow_add, Nat.pow_succ', Nat.pow_add]
    _ ≤ 10 ^ (-decimal.exponent).toNat :=
        two_pow_le_ten_pow (by unfold Double.scale; omega)

/-- The shortcuts of reading a decimal agree with rounding. -/
theorem toDouble_eq_nearest (negative : Bool) (decimal : Decimal) :
    decimal.toDouble negative = decimal.nearest negative := by
  unfold toDouble
  split
  case isTrue zero => exact (nearest_zero negative zero).symm
  case isFalse nonzero =>
      split
      case isTrue far => exact (nearest_beyond negative nonzero far).symm
      case isFalse =>
          split
          case isTrue tiny => exact (nearest_vanishing negative tiny).symm
          case isFalse =>
              split
              case isTrue whole =>
                  refine Double.ofRatio_congr negative _ _ ?_
                  have none : (-decimal.exponent).toNat = 0 := by omega
                  rw [none, Nat.pow_zero, Nat.pow_eq]
              case isFalse fraction =>
                  refine Double.ofRatio_congr negative _ _ ?_
                  have none : decimal.exponent.toNat = 0 := by omega
                  rw [none, Nat.pow_zero, Nat.mul_one, Nat.pow_eq]

/-- Zeros at the end of the digits can be moved into the exponent. -/
theorem toDouble_shift (negative : Bool) (digits count : Nat) (exponent : Int) :
    toDouble negative ⟨digits * 10 ^ count, exponent⟩ =
      toDouble negative ⟨digits, exponent + count⟩ := by
  rw [toDouble_eq_nearest, toDouble_eq_nearest]
  refine Double.ofRatio_congr negative _ _ ?_
  have exponents : count + exponent.toNat + (-(exponent + count)).toNat =
      (exponent + count).toNat + (-exponent).toNat := by omega
  rw [Nat.mul_assoc, Nat.mul_assoc, Nat.mul_assoc, ← Nat.pow_add, ← Nat.pow_add, ← Nat.pow_add,
    ← Nat.add_assoc, exponents]

/-- A decimal that reads back does so with either sign. -/
theorem ReadsBack.signed {decimal : Decimal} {magnitude : Magnitude}
    (readsBack : decimal.ReadsBack magnitude) (negative : Bool) :
    decimal.toDouble negative = .finite negative magnitude := by
  rw [ReadsBack, toDouble_eq_nearest] at readsBack
  rw [toDouble_eq_nearest]
  unfold nearest Double.ofRatio Double.ofUnits at readsBack ⊢
  split at readsBack
  case isTrue bounded =>
      rw [dif_pos bounded, ← (Double.finite.inj readsBack).2]
  case isFalse => cases readsBack

end Decimal

namespace Magnitude

theorem exact_readsBack (magnitude : Magnitude) : magnitude.exact.ReadsBack magnitude := by
  have powers : magnitude.expansion * 2 ^ Double.scale =
      magnitude.units * 10 ^ Double.scale := by
    rw [expansion, Nat.pow_eq, Nat.mul_assoc, ← Nat.mul_pow]
  have fraction : (-(Double.scale : Int)).toNat = 0 := by omega
  have places : (- -(Double.scale : Int)).toNat = Double.scale := by omega
  rw [Decimal.ReadsBack, Decimal.toDouble_eq_nearest]
  refine Double.ofRatio_finite false _ ?_
  dsimp only [exact]
  rw [fraction, places, Nat.pow_zero, Nat.mul_one, powers]
  exact Double.nearestUnits_exact magnitude.precise (Nat.pow_pos (by decide))

theorem shortestDropping_readsBack (tie : Tie) (magnitude : Magnitude) (dropped : Nat) :
    (magnitude.shortestDropping tie dropped).ReadsBack magnitude := by
  induction dropped with
  | zero => exact magnitude.exact_readsBack
  | succ dropped ih =>
      rw [shortestDropping]
      cases preferred : magnitude.neighbour? tie (dropped + 1) with
      | none => exact ih
      | some found => exact neighbour?_readsBack preferred

/-- The decimal that is written for a magnitude reads back. -/
theorem toDecimal_readsBack (tie : Tie) (magnitude : Magnitude) :
    (magnitude.toDecimal tie).ReadsBack magnitude := by
  unfold toDecimal
  split
  case isTrue zero =>
      obtain ⟨units, bounded, precise⟩ := magnitude
      subst zero
      rw [Decimal.ReadsBack, Decimal.toDouble_eq_nearest]
      exact Decimal.nearest_zero false rfl
  case isFalse => exact shortestDropping_readsBack tie magnitude _

end Magnitude

end CourseAdvisor
