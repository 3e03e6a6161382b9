/-
This file proves that every written number is a numeral.
-/

import Mathlib.Data.List.TakeWhile
import CourseAdvisor.Double.Written
import CourseAdvisor.Proofs.Json.Numerals

namespace CourseAdvisor

open Json

theorem toDigits_run (value : Nat) : IsRun (Nat.toDigits 10 value) where
  nonempty := Nat.toDigits_ne_nil
  all _ member := Nat.isDigit_of_mem_toDigits (by decide) (by decide) member

theorem isDigit_zeros (count : Nat) :
    ∀ digit ∈ List.replicate count '0', digit.isDigit = true := by
  intro digit member
  rw [List.eq_of_mem_replicate member]
  rfl

/-- Only zero has the digits of zero. -/
theorem eq_zero_of_toDigits {value : Nat} (zero : Nat.toDigits 10 value = ['0']) : value = 0 := by
  have read := Nat.ofDigitChars_ten_toDigits (n := value)
  rw [zero] at read
  exact read.symm

/-- The digits of a whole number start with a zero only when they are the digits of zero. -/
theorem toDigits_whole (value : Nat) : IsWhole (Nat.toDigits 10 value) where
  toIsRun := toDigits_run value
  canonical starts := by
    induction value using Nat.strongRecOn with
    | _ value ih =>
        by_cases small : value < 10
        · rw [Nat.toDigits_of_lt_base small] at starts ⊢
          rw [List.head?_cons, Option.some.injEq] at starts
          rw [starts]
        · have split := Nat.toDigits_of_base_le (b := 10) (n := value) (by decide) (by omega)
          have upper := ih (value / 10) (by omega)
          obtain ⟨first, others, same⟩ :=
            List.exists_cons_of_ne_nil (toDigits_run (value / 10)).nonempty
          rw [split, same] at starts
          have zero := eq_zero_of_toDigits (upper (by rw [same]; exact starts))
          omega

namespace Decimal

/-- The significant digits are a whole number that starts with a zero only for zero. -/
theorem significantDigits_whole (decimal : Decimal) :
    IsWhole decimal.significantDigits ∧
      (decimal.significantDigits.head? = some '0' → decimal.digits = 0) := by
  have whole := toDigits_whole decimal.digits
  obtain ⟨first, others, same⟩ := List.exists_cons_of_ne_nil whole.nonempty
  have isZero (starts : first = '0') : decimal.digits = 0 :=
    eq_zero_of_toDigits (whole.canonical (by rw [same, starts]; rfl))
  unfold significantDigits
  split
  case h_1 stripped =>
      rw [List.reverse_eq_nil_iff, List.dropWhile_eq_nil_iff] at stripped
      have starts : first = '0' := by simpa using stripped first (by simp [same])
      exact ⟨.zero, fun _ => isZero starts⟩
  case h_2 nonempty =>
      have front : ((Nat.toDigits 10 decimal.digits).reverse.dropWhile (· = '0')).reverse <+:
          Nat.toDigits 10 decimal.digits := by
        rw [← List.reverse_suffix, List.reverse_reverse]
        exact List.dropWhile_suffix _
      generalize ((Nat.toDigits 10 decimal.digits).reverse.dropWhile (· = '0')).reverse = kept
        at nonempty front
      obtain ⟨head, rest, rfl⟩ := List.exists_cons_of_ne_nil (fun empty => nonempty empty)
      have sameHead : head = first := by
        rw [same] at front
        exact (List.cons_prefix_cons.mp front).1
      have run : IsRun (head :: rest) :=
        ⟨List.cons_ne_nil _ _, fun digit member => whole.all digit (front.subset member)⟩
      refine ⟨⟨run, ?_⟩, ?_⟩
      · intro starts
        rw [List.head?_cons, Option.some.injEq] at starts
        rw [whole.canonical (by rw [same, ← sameHead, starts]; rfl)] at front
        rw [starts, List.prefix_nil.mp (List.cons_prefix_cons.mp front).2]
      · intro starts
        exact isZero (sameHead ▸ Option.some.inj starts)

/-- A zero without a high exponent has at most one digit before the point. -/
theorem significantDigits_placed {decimal : Decimal}
    (low : decimal.digits = 0 → decimal.exponent ≤ 0) :
    decimal.significantDigits.head? = some '0' → decimal.point ≤ 1 := by
  intro starts
  have zero := decimal.significantDigits_whole.2 starts
  have short := low zero
  rw [point, zero]
  change (1 : Int) + decimal.exponent ≤ 1
  omega

/-- The digits before the point are a whole number, and behind it stand digits alone. -/
theorem aroundPoint_parts {digits : List Char} {point : Int} (whole : IsWhole digits)
    (placed : digits.head? = some '0' → point ≤ 1) :
    IsWhole (aroundPoint digits point).1 ∧
      ∀ digit ∈ (aroundPoint digits point).2, digit.isDigit = true := by
  obtain ⟨first, others, same⟩ := List.exists_cons_of_ne_nil whole.nonempty
  unfold aroundPoint
  split
  case isTrue =>
      refine ⟨.zero, fun digit member => ?_⟩
      exact (List.mem_append.mp member).elim (isDigit_zeros _ digit) (whole.all digit)
  case isFalse positive =>
      split
      case isTrue long =>
          refine ⟨⟨⟨by simp [same], fun digit member => ?_⟩, fun starts => ?_⟩, by simp⟩
          · exact (List.mem_append.mp member).elim (whole.all digit) (isDigit_zeros _ digit)
          · have zero : digits.head? = some '0' := by
              rw [same] at starts ⊢
              exact starts
            have low := placed zero
            have none : (point - digits.length).toNat = 0 := by
              rw [whole.canonical zero, List.length_singleton]
              omega
            rw [none, List.replicate_zero, List.append_nil, whole.canonical zero]
      case isFalse short =>
          obtain ⟨before, isBefore⟩ := Nat.exists_eq_succ_of_ne_zero (n := point.toNat) (by omega)
          refine ⟨⟨⟨by simp [same, isBefore], fun digit member => ?_⟩, fun starts => ?_⟩,
            fun digit member => whole.all digit (List.mem_of_mem_drop member)⟩
          · exact whole.all digit (List.mem_of_mem_take member)
          · have zero : digits.head? = some '0' := by
              rw [same, isBefore, List.take_succ_cons] at starts
              rw [same]
              exact starts
            rw [whole.canonical zero, List.length_singleton] at short
            have low := placed zero
            omega

theorem positionalText_numeral (keepsPoint : Bool) {digits : List Char} {point : Int}
    (whole : IsWhole digits) (placed : digits.head? = some '0' → point ≤ 1) :
    IsNumeral (positionalText keepsPoint digits point) := by
  have parts := aroundPoint_parts whole placed
  unfold positionalText
  split
  case h_1 before same =>
      rw [same] at parts
      split
      · exact .fraction parts.1 IsWhole.zero.toIsRun
      · exact .whole parts.1
  case h_2 before behind nonempty same =>
      rw [same] at parts
      exact .fraction parts.1 ⟨fun empty => nonempty empty, parts.2⟩

theorem exponentText_numeral {digits : List Char} (whole : IsWhole digits) (point : Int) :
    IsNumeral (exponentText digits point) := by
  have signed : (if point ≤ 0 then '-' else '+') = '-' ∨
      (if point ≤ 0 then '-' else '+') = '+' := by
    split <;> simp
  have isExponent := toDigits_run (point - 1).natAbs
  unfold exponentText
  dsimp only
  split
  case h_1 => exact absurd rfl whole.nonempty
  case h_2 => exact .exponent whole signed isExponent
  case h_3 first others several =>
      have single : IsWhole [first] :=
        ⟨⟨by simp, fun digit member => whole.all digit (by simp_all)⟩, by simp⟩
      have fraction : IsRun others :=
        ⟨fun empty => several (by rw [empty]), fun digit member =>
          whole.all digit (List.mem_cons_of_mem _ member)⟩
      exact .scientific single fraction signed isExponent

/-- A decimal is written as a numeral, unless it is a zero with a high exponent. -/
theorem written_numeral (style : NumberStyle) {decimal : Decimal}
    (low : decimal.digits = 0 → decimal.exponent ≤ 0) : IsNumeral (decimal.written style) := by
  have whole := decimal.significantDigits_whole.1
  unfold written
  split
  · exact positionalText_numeral style.keepsPoint whole (significantDigits_placed low)
  · exact exponentText_numeral whole decimal.point

end Decimal

namespace Magnitude

theorem expansion_positive {magnitude : Magnitude} (nonzero : magnitude.units ≠ 0) :
    magnitude.expansion ≠ 0 := by
  unfold expansion
  generalize Double.scale = scale
  exact Nat.mul_ne_zero nonzero (Nat.ne_of_gt (Nat.pow_pos (by decide)))

/-- A preferred neighbour reads back. -/
theorem neighbour?_readsBack {tie : Tie} {magnitude : Magnitude} {dropped : Nat} {found : Decimal}
    (preferred : magnitude.neighbour? tie dropped = some found) : found.ReadsBack magnitude := by
  unfold neighbour? at preferred
  have passed := List.find?_some preferred
  rwa [decide_eq_true_iff] at passed

/-- Only zero reads back from a decimal without digits. -/
theorem units_of_readsBack {magnitude : Magnitude} {decimal : Decimal}
    (readsBack : decimal.ReadsBack magnitude) (zero : decimal.digits = 0) :
    magnitude.units = 0 := by
  rw [Decimal.ReadsBack, Decimal.toDouble, if_pos zero, Double.finite.injEq] at readsBack
  rw [← readsBack.2]
  rfl

/-- A magnitude other than zero has digits other than zero. -/
theorem shortestDropping_digits (tie : Tie) {magnitude : Magnitude} (nonzero : magnitude.units ≠ 0)
    (dropped : Nat) : (magnitude.shortestDropping tie dropped).digits ≠ 0 := by
  induction dropped with
  | zero =>
      rw [shortestDropping, exact]
      exact expansion_positive nonzero
  | succ dropped ih =>
      rw [shortestDropping]
      cases preferred : magnitude.neighbour? tie (dropped + 1) with
      | some found =>
          exact fun zero => nonzero (units_of_readsBack (neighbour?_readsBack preferred) zero)
      | none => exact ih

/-- A zero is the decimal without an exponent. -/
theorem toDecimal_low (tie : Tie) (magnitude : Magnitude)
    (zero : (magnitude.toDecimal tie).digits = 0) : (magnitude.toDecimal tie).exponent ≤ 0 := by
  unfold toDecimal at zero ⊢
  split
  case isTrue => exact Int.le_refl 0
  case isFalse nonzero =>
      rw [if_neg nonzero] at zero
      exact absurd zero (shortestDropping_digits tie nonzero _)

/-- A magnitude is written as a numeral in every style. -/
theorem written_numeral (style : NumberStyle) (magnitude : Magnitude) :
    IsNumeral ((magnitude.toDecimal style.tie).written style) :=
  Decimal.written_numeral style (magnitude.toDecimal_low style.tie)

end Magnitude

end CourseAdvisor
