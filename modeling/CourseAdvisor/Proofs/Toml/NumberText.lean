/-
This file proves that written numbers are read back from the lines that they end.
-/

import CourseAdvisor.Proofs.Double.ReadingBack
import CourseAdvisor.Proofs.Toml.Lines

namespace CourseAdvisor

open Json

namespace Toml

/-- This text does not carry on a run of digits. -/
def Stops (text : List Char) : Prop := ∀ char ∈ text.head?, char.isDigit = false ∧ char ≠ '_'

theorem Stops.of_head {char : Char} (noDigit : char.isDigit = false) (plain : char ≠ '_')
    (rest : List Char) : Stops (char :: rest) := forall_mem_head? ⟨noDigit, plain⟩ rest

theorem isDigit_ne_underscore {digit : Char} (isDigit : digit.isDigit = true) : digit ≠ '_' := by
  rintro rfl
  exact absurd isDigit (by decide)

theorem readDigitsWith_append {digits rest : List Char}
    (all : ∀ digit ∈ digits, digit.isDigit = true) (stops : Stops rest) :
    readDigitsWith Char.isDigit (digits ++ rest) = some (digits, rest) := by
  induction digits with
  | nil =>
      cases rest with
      | nil => rfl
      | cons char rest =>
          obtain ⟨noDigit, plain⟩ := stops char rfl
          rw [List.nil_append, readDigitsWith.eq_3 _ _ _ (by simp [plain]) (by simp [plain])]
          simp [noDigit]
  | cons digit digits ih =>
      rw [List.forall_mem_cons] at all
      have plain := isDigit_ne_underscore all.1
      rw [List.cons_append, readDigitsWith.eq_3 _ _ _ (by simp [plain]) (by simp [plain]),
        if_pos all.1, ih all.2]
      rfl

/-- A run of digits is read whole. -/
theorem readDigits_append {digits rest : List Char} (run : IsRun digits) (stops : Stops rest) :
    readDigits Char.isDigit (digits ++ rest) = some (digits, rest) := by
  obtain ⟨first, others, rfl⟩ := List.exists_cons_of_ne_nil run.nonempty
  have all := List.forall_mem_cons.mp run.all
  rw [List.cons_append, readDigits, if_pos all.1, readDigitsWith_append all.2 stops]
  rfl

/-- A whole number that starts with a zero is that zero. -/
theorem eq_zero_of_append {whole rest others : List Char} (isWhole : IsWhole whole)
    (same : whole ++ rest = '0' :: others) : whole = ['0'] ∧ rest = others := by
  have single : whole = ['0'] := by
    apply isWhole.canonical
    obtain ⟨first, tail, rfl⟩ := List.exists_cons_of_ne_nil isWhole.nonempty
    rw [List.cons_append] at same
    rw [List.head?_cons, (List.cons.inj same).1]
  rw [single, List.singleton_append] at same
  exact ⟨single, (List.cons.inj same).2⟩

theorem readWhole_append {digits rest : List Char} (whole : IsWhole digits)
    (stops : Stops rest) : readWhole (digits ++ rest) = some (digits, rest) := by
  unfold readWhole
  split
  case h_1 others same =>
      obtain ⟨single, left⟩ := eq_zero_of_append whole same
      rw [single, left]
  case h_2 => exact readDigits_append whole.toIsRun stops

theorem readFraction_append {digits rest : List Char} (run : IsRun digits) (stops : Stops rest) :
    readFraction ('.' :: (digits ++ rest)) = some (some digits, rest) := by
  rw [readFraction, readDigits_append run stops]
  rfl

/-- The digits on both sides of a point make one decimal. -/
theorem readDecimal_fraction {negative : Bool} {whole fraction : List Char}
    (isWhole : IsWhole whole) (isFraction : IsRun fraction) {magnitude : Magnitude}
    (nearest : Decimal.toDouble negative ⟨valueIn 10 (whole ++ fraction), -fraction.length⟩ =
      .finite negative magnitude) (rest : List Char) :
    readDecimal negative (whole ++ '.' :: (fraction ++ '\n' :: rest)) =
      some (.number (.finite negative magnitude), '\n' :: rest) := by
  have pointed : Stops ('.' :: (fraction ++ '\n' :: rest)) :=
    .of_head (by decide) (by decide) _
  have ended : Stops ('\n' :: rest) := .of_head (by decide) (by decide) _
  have noExponent : readExponent ('\n' :: rest) = some (none, '\n' :: rest) := rfl
  have exponent : (none.getD 0 - fraction.length : Int) = -fraction.length := Int.zero_sub _
  unfold readDecimal
  simp only [readWhole_append isWhole pointed, readFraction_append isFraction ended, noExponent,
    Option.bind_eq_bind, Option.bind_some, Option.getD_some, exponent, nearest]
  rfl

theorem ofInteger?_natural {value : Nat} (small : value < 0x8000000000000000) :
    ofInteger? value = some (.integer value) := by
  rw [ofInteger?, if_pos (by omega)]

/-- Digits alone make an integer. -/
theorem readDecimal_whole {whole : List Char} (isWhole : IsWhole whole)
    (small : valueIn 10 whole < 0x8000000000000000) (rest : List Char) :
    readDecimal false (whole ++ '\n' :: rest) =
      some (.integer (valueIn 10 whole), '\n' :: rest) := by
  have ended : Stops ('\n' :: rest) := .of_head (by decide) (by decide) _
  have noFraction : readFraction ('\n' :: rest) = some (none, '\n' :: rest) := rfl
  have noExponent : readExponent ('\n' :: rest) = some (none, '\n' :: rest) := rfl
  rw [readDecimal, readWhole_append isWhole ended, Option.bind_eq_bind, Option.bind_some]
  dsimp only
  rw [noFraction, Option.bind_eq_bind, Option.bind_some]
  dsimp only
  rw [noExponent, Option.bind_eq_bind, Option.bind_some]
  dsimp only
  -- The bounds of an integer stay folded: evaluating them would count down to zero.
  rw [if_pos ⟨rfl, rfl⟩, if_neg Bool.false_ne_true, ofInteger?_natural small]
  rfl

theorem hexValue?_digit {digit : Char} (isDigit : digit.isDigit = true) :
    hexValue? digit = some (digit.toNat - '0'.toNat) := by
  have bounds : '0' ≤ digit ∧ digit ≤ '9' := by
    simpa [Char.isDigit, Char.le_def] using isDigit
  rw [hexValue?, if_pos bounds]

/-- Decimal digits have the value that they write out. -/
theorem valueIn_digits {digits : List Char} (all : ∀ digit ∈ digits, digit.isDigit = true) :
    valueIn 10 digits = Nat.ofDigitChars 10 digits 0 := by
  suffices general : ∀ start, digits.foldl
      (fun value digit => value * 10 + (hexValue? digit).getD 0) start =
        Nat.ofDigitChars 10 digits start from general 0
  induction digits with
  | nil => exact fun _ => rfl
  | cons digit digits ih =>
      intro start
      rw [List.forall_mem_cons] at all
      rw [List.foldl_cons, Nat.ofDigitChars_cons, hexValue?_digit all.1, Nat.mul_comm 10]
      exact ih all.2 _

theorem valueIn_toDigits (value : Nat) : valueIn 10 (Nat.toDigits 10 value) = value := by
  rw [valueIn_digits (toDigits_run value).all, Nat.ofDigitChars_ten_toDigits]

/-- Leading zeros do not count. -/
theorem valueIn_zeros_append {digits : List Char} (all : ∀ digit ∈ digits, digit.isDigit = true)
    (count : Nat) : valueIn 10 (List.replicate count '0' ++ digits) = valueIn 10 digits := by
  rw [valueIn_digits (List.forall_mem_append.mpr ⟨isDigit_zeros count, all⟩), valueIn_digits all,
    Nat.ofDigitChars_append, Nat.ofDigitChars_replicate_zero, Nat.mul_zero]

/-- Every zero at the end multiplies by ten. -/
theorem valueIn_append_zeros {digits : List Char} (all : ∀ digit ∈ digits, digit.isDigit = true)
    (count : Nat) :
    valueIn 10 (digits ++ List.replicate count '0') = valueIn 10 digits * 10 ^ count := by
  rw [valueIn_digits (List.forall_mem_append.mpr ⟨all, isDigit_zeros count⟩), valueIn_digits all,
    Nat.ofDigitChars_append, Nat.ofDigitChars_replicate_zero, Nat.mul_comm]

end Toml

namespace Decimal

open Toml

/-- Only zeros are left out behind the significant digits. -/
theorem significantDigits_zeros (decimal : Decimal) :
    ∃ zeros, Nat.toDigits 10 decimal.digits =
      decimal.significantDigits ++ List.replicate zeros '0' := by
  generalize isDigits : Nat.toDigits 10 decimal.digits = digits
  have dropped : digits = (digits.reverse.dropWhile (· = '0')).reverse ++
      List.replicate (digits.reverse.takeWhile (· = '0')).length '0' := by
    have zeros : digits.reverse.takeWhile (· = '0') =
        List.replicate (digits.reverse.takeWhile (· = '0')).length '0' := by
      apply List.eq_replicate_of_mem
      intro char member
      simpa using List.mem_takeWhile_imp member
    calc digits = (digits.reverse.takeWhile (· = '0') ++
          digits.reverse.dropWhile (· = '0')).reverse := by
            rw [List.takeWhile_append_dropWhile, List.reverse_reverse]
      _ = _ := by rw [List.reverse_append, zeros, List.reverse_replicate, List.length_replicate]
  unfold significantDigits
  rw [isDigits]
  split
  case h_1 stripped =>
      have whole : IsWhole digits := isDigits ▸ toDigits_whole decimal.digits
      rw [stripped, List.nil_append] at dropped
      refine ⟨0, whole.canonical ?_⟩
      obtain ⟨first, others, isCons⟩ := List.exists_cons_of_ne_nil whole.nonempty
      have member : first ∈ digits := isCons ▸ List.mem_cons_self
      rw [dropped] at member
      rw [isCons, List.head?_cons, List.eq_of_mem_replicate member]
  case h_2 => exact ⟨_, dropped⟩

/-- At least one digit stands behind the point of a pointed number. -/
def paddedFraction : List Char → List Char
  | [] => ['0']
  | digits => digits

theorem paddedFraction_eq {digits : List Char} (nonempty : digits ≠ []) :
    paddedFraction digits = digits := by
  obtain ⟨first, others, rfl⟩ := List.exists_cons_of_ne_nil nonempty
  rfl

theorem paddedFraction_run {digits : List Char} (all : ∀ digit ∈ digits, digit.isDigit = true) :
    IsRun (paddedFraction digits) := by
  cases digits with
  | nil => exact IsWhole.zero.toIsRun
  | cons first others => exact ⟨List.cons_ne_nil _ _, all⟩

theorem positionalText_pointed (digits : List Char) (point : Int) :
    positionalText true digits point =
      (aroundPoint digits point).1 ++ '.' :: paddedFraction (aroundPoint digits point).2 := by
  unfold positionalText
  split
  case h_1 same =>
      rw [same]
      rfl
  case h_2 fraction nonempty same =>
      rw [same, paddedFraction_eq fun empty => nonempty empty]

/-- The point moves the digits and keeps the decimal. -/
theorem toDouble_positional (negative : Bool) {digits : List Char} (run : IsRun digits)
    (point : Int) :
    toDouble negative ⟨valueIn 10 ((aroundPoint digits point).1 ++
        paddedFraction (aroundPoint digits point).2),
      -(paddedFraction (aroundPoint digits point).2).length⟩ =
    toDouble negative ⟨valueIn 10 digits, point - digits.length⟩ := by
  unfold aroundPoint
  -- The point stands before the digits, behind them or among them.
  split
  case isTrue low =>
      have nonempty : List.replicate (-point).toNat '0' ++ digits ≠ [] :=
        fun empty => run.nonempty (List.append_eq_nil_iff.mp empty).2
      have value := valueIn_zeros_append run.all ((-point).toNat + 1)
      rw [List.replicate_succ, List.cons_append] at value
      have exponent : -((List.replicate (-point).toNat '0' ++ digits).length : Int) =
          point - digits.length := by
        rw [List.length_append, List.length_replicate]
        omega
      rw [paddedFraction_eq nonempty, List.singleton_append, value, exponent]
  case isFalse positive =>
      split
      case isTrue long =>
          have value := valueIn_append_zeros run.all ((point - digits.length).toNat + 1)
          rw [List.replicate_succ', ← List.append_assoc] at value
          have exponent : -(['0'].length : Int) + ((point - digits.length).toNat + 1 : Nat) =
              point - digits.length := by
            rw [List.length_singleton]
            omega
          rw [paddedFraction, value, toDouble_shift, exponent]
      case isFalse short =>
          have nonempty : digits.drop point.toNat ≠ [] := by
            rw [ne_eq, List.drop_eq_nil_iff]
            omega
          have exponent : -((digits.drop point.toNat).length : Int) = point - digits.length := by
            rw [List.length_drop]
            omega
          rw [paddedFraction_eq nonempty, List.take_append_drop, exponent]

/-- The significant digits and the point make up the decimal. -/
theorem toDouble_significant (negative : Bool) (decimal : Decimal) :
    toDouble negative ⟨valueIn 10 decimal.significantDigits,
      decimal.point - decimal.significantDigits.length⟩ = decimal.toDouble negative := by
  obtain ⟨zeros, same⟩ := decimal.significantDigits_zeros
  have value : decimal.digits = valueIn 10 decimal.significantDigits * 10 ^ zeros := by
    rw [← valueIn_append_zeros decimal.significantDigits_whole.1.all, ← same, valueIn_toDigits]
  have exponent : decimal.point - decimal.significantDigits.length = decimal.exponent + zeros := by
    rw [point, same, List.length_append, List.length_replicate]
    omega
  rw [exponent, ← toDouble_shift, ← value]

/-- A decimal that is written with a point has digits on both sides that make it up. -/
theorem written_pointed {decimal : Decimal} (low : decimal.digits = 0 → decimal.exponent ≤ 0) :
    ∃ whole fraction, decimal.written .pointed = whole ++ '.' :: fraction ∧
      IsWhole whole ∧ IsRun fraction ∧
      ∀ negative, toDouble negative ⟨valueIn 10 (whole ++ fraction), -fraction.length⟩ =
        decimal.toDouble negative := by
  have isWhole := decimal.significantDigits_whole.1
  have parts := aroundPoint_parts isWhole (significantDigits_placed low)
  refine ⟨_, _, positionalText_pointed decimal.significantDigits decimal.point, parts.1,
    paddedFraction_run parts.2, fun negative => ?_⟩
  rw [toDouble_positional negative isWhole.toIsRun, toDouble_significant]

end Decimal

namespace Toml

/-- A whole number does not start with a character that is no digit. -/
theorem ne_cons_of_whole {whole rest others : List Char} {char : Char} (isWhole : IsWhole whole)
    (noDigit : char.isDigit = false) : whole ++ rest ≠ char :: others := by
  obtain ⟨first, tail, rfl⟩ := List.exists_cons_of_ne_nil isWhole.nonempty
  intro same
  have isDigit := isWhole.all first List.mem_cons_self
  rw [(List.cons.inj same).1, noDigit] at isDigit
  cases isDigit

theorem readSign_whole {whole : List Char} (isWhole : IsWhole whole) (rest : List Char) :
    readSign (whole ++ rest) = (false, whole ++ rest) := by
  unfold readSign
  split
  case h_1 same => exact absurd same (ne_cons_of_whole isWhole (by decide))
  case h_2 same => exact absurd same (ne_cons_of_whole isWhole (by decide))
  case h_3 => rfl

/-- A number of another base starts with a zero and one of these letters. -/
def IsBased (text : List Char) : Prop :=
  ∃ marker ∈ ['x', 'o', 'b'], ∃ rest, text = '0' :: marker :: rest

/-- Behind its sign a number is a decimal. -/
theorem readNumber_signed {text whole rest : List Char} {negative : Bool}
    (isWhole : IsWhole whole) (notBased : ¬IsBased text)
    (signed : readSign text = (negative, whole ++ rest)) :
    readNumber text = readDecimal negative (whole ++ rest) := by
  unfold readNumber
  split
  case h_1 others => exact absurd ⟨_, by decide, others, rfl⟩ notBased
  case h_2 others => exact absurd ⟨_, by decide, others, rfl⟩ notBased
  case h_3 others => exact absurd ⟨_, by decide, others, rfl⟩ notBased
  case h_4 =>
      rw [signed]
      dsimp only
      split
      case h_1 same => exact absurd same (ne_cons_of_whole isWhole (by decide))
      case h_2 same => exact absurd same (ne_cons_of_whole isWhole (by decide))
      case h_3 => rfl

theorem readNumber_negative {whole : List Char} (isWhole : IsWhole whole) (rest : List Char) :
    readNumber ('-' :: (whole ++ rest)) = readDecimal true (whole ++ rest) := by
  apply readNumber_signed isWhole _ rfl
  rintro ⟨_, _, _, same⟩
  exact absurd (List.cons.inj same).1 (by decide)

theorem readNumber_unsigned {whole rest : List Char} (isWhole : IsWhole whole)
    (unmarked : ∀ char ∈ rest.head?, char ∉ ['x', 'o', 'b']) :
    readNumber (whole ++ rest) = readDecimal false (whole ++ rest) := by
  apply readNumber_signed isWhole _ (readSign_whole isWhole rest)
  rintro ⟨marker, isMarker, others, same⟩
  obtain ⟨_, rfl⟩ := eq_zero_of_append isWhole same
  exact unmarked marker rfl isMarker

/-- A text that starts with no digit does not start like a date or a time. -/
theorem startsMoment_of_head {first : Char} (noDigit : first.isDigit = false) (rest : List Char) :
    startsDate (first :: rest) = false ∧ startsTime (first :: rest) = false := by
  simp [startsDate, startsTime, noDigit]

/-- Digits do not go on to a marker that the line does not hold. -/
theorem unmarked_line {line : List Char} {marker : Char} (unmarked : marker ∉ line ++ ['\n'])
    (count : Nat) (rest : List Char) :
    (((line ++ '\n' :: rest).take count).all Char.isDigit &&
      (line ++ '\n' :: rest)[count]? == some marker) = false := by
  rw [Bool.and_eq_false_iff]
  by_cases within : count ≤ line.length
  · right
    rw [beq_eq_false_iff_ne, ← List.singleton_append, ← List.append_assoc,
      List.getElem?_append_left (by simp; omega)]
    exact fun found => unmarked (List.mem_of_getElem? found)
  · left
    obtain ⟨beyond, isBeyond⟩ := Nat.exists_eq_succ_of_ne_zero (n := count - line.length) (by omega)
    rw [List.take_append, isBeyond, List.take_succ_cons, List.all_append, List.all_cons]
    simp

/-- A line without a dash and a colon does not start like a date or a time. -/
theorem startsMoment_of_line {line : List Char} (noDash : '-' ∉ line) (noColon : ':' ∉ line)
    (rest : List Char) :
    startsDate (line ++ '\n' :: rest) = false ∧ startsTime (line ++ '\n' :: rest) = false := by
  have date : '-' ∉ line ++ ['\n'] := by simpa using noDash
  have time : ':' ∉ line ++ ['\n'] := by simpa using noColon
  constructor
  · rw [startsDate, Bool.and_assoc, unmarked_line date, Bool.and_false]
  · rw [startsTime, Bool.and_assoc, unmarked_line time, Bool.and_false]

/-- What is no text, no truth value and no moment is a number. -/
theorem readScalar_number {text : List Char}
    (plain : ∀ char ∈ text.head?, char ∉ ['"', '\'', 't', 'f'])
    (noMoment : startsDate text = false ∧ startsTime text = false) :
    readScalar text = readNumber text := by
  have noStart {char : Char} (listed : char ∈ ['"', '\'', 't', 'f']) {rest : List Char} :
      text ≠ char :: rest := by
    rintro rfl
    exact plain char rfl listed
  unfold readScalar
  split
  case h_1 => exact absurd rfl (noStart (by decide))
  case h_2 => exact absurd rfl (noStart (by decide))
  case h_3 => exact absurd rfl (noStart (by decide))
  case h_4 => exact absurd rfl (noStart (by decide))
  case h_5 =>
      rw [noMoment.1, noMoment.2]
      rfl

/-- A number of digits and points is read from its line. -/
theorem denotes_of_digits {text : List Char} {value : Toml}
    (digits : ∀ char ∈ text, char.isDigit = true ∨ char = '.')
    (read : ∀ rest, readNumber (text ++ '\n' :: rest) = some (value, '\n' :: rest)) :
    Denotes text value := by
  have other {char : Char} (noDigit : char.isDigit = false) (noPoint : char ≠ '.') :
      char ∉ text := by
    intro member
    rcases digits char member with isDigit | isPoint
    · rw [noDigit] at isDigit
      cases isDigit
    · exact noPoint isPoint
  constructor
  case plain =>
      intro char isHead listed
      have member := List.mem_of_mem_head? isHead
      simp only [List.mem_cons, List.not_mem_nil, or_false] at listed
      rcases listed with rfl | rfl | rfl | rfl <;> exact other (by decide) (by decide) member
  case read =>
      intro rest
      have noMoment := startsMoment_of_line (other (by decide) (by decide))
        (other (by decide) (by decide)) rest
      rw [readScalar_number _ noMoment, read]
      intro char isHead listed
      simp only [List.mem_cons, List.not_mem_nil, or_false] at listed
      cases text with
      | nil =>
          rw [List.nil_append, List.head?_cons, Option.mem_some_iff] at isHead
          rw [← isHead] at listed
          exact absurd listed (by decide)
      | cons first others =>
          rw [List.cons_append, List.head?_cons, Option.mem_some_iff] at isHead
          have member : char ∈ first :: others := isHead ▸ List.mem_cons_self
          rcases listed with rfl | rfl | rfl | rfl <;> exact other (by decide) (by decide) member

/-- Natural numbers are read back from their digits. -/
theorem toDigits_denotes {value : Nat} (small : value < 0x8000000000000000) :
    Denotes (Nat.toDigits 10 value) (.integer value) := by
  have whole := toDigits_whole value
  refine denotes_of_digits (fun digit member => .inl (whole.all digit member)) fun rest => ?_
  have same := valueIn_toDigits value
  rw [readNumber_unsigned whole (by simp), readDecimal_whole whole (by rwa [same]), same]

/-- A double is read back from its text with a point. -/
theorem written_denotes (value : Double) : Denotes (value.written .pointed) (.number value) := by
  cases value with
  | notNumber => exact ⟨by rintro char ⟨⟩; decide, fun _ => rfl⟩
  | infinite negative => cases negative <;> exact ⟨by rintro char ⟨⟩; decide, fun _ => rfl⟩
  | finite negative magnitude =>
      obtain ⟨whole, fraction, text, isWhole, isFraction, same⟩ :=
        Decimal.written_pointed (magnitude.toDecimal_low .upper)
      have nearest := (same negative).trans ((magnitude.toDecimal_readsBack .upper).signed negative)
      have line (rest : List Char) : whole ++ '.' :: fraction ++ '\n' :: rest =
          whole ++ '.' :: (fraction ++ '\n' :: rest) := by
        rw [List.append_assoc, List.cons_append]
      have read := readDecimal_fraction isWhole isFraction nearest
      cases negative with
      | false =>
          change Denotes ((magnitude.toDecimal .upper).written .pointed) _
          rw [text]
          apply denotes_of_digits
          · intro char member
            rw [List.mem_append, List.mem_cons] at member
            rcases member with inWhole | isPoint | inFraction
            · exact .inl (isWhole.all char inWhole)
            · exact .inr isPoint
            · exact .inl (isFraction.all char inFraction)
          · intro rest
            rw [line, readNumber_unsigned isWhole (by simp), read]
      | true =>
          change Denotes ('-' :: (magnitude.toDecimal .upper).written .pointed) _
          rw [text]
          refine ⟨by simp, fun rest => ?_⟩
          rw [List.cons_append, readScalar_number (by simp) (startsMoment_of_head (by decide) _),
            line, readNumber_negative isWhole, read]

end Toml

end CourseAdvisor
