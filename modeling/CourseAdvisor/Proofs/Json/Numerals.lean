/-
This file proves that numerals are scanned up to the first character that cannot carry them on.
-/

import CourseAdvisor.Json.Token

namespace CourseAdvisor.Json

/-- Text that does not start with a digit cannot carry on a run of digits. -/
def Undigited (text : List Char) : Prop := text.takeWhile Char.isDigit = []

/-- This text cannot carry on a numeral. -/
def Delimited : List Char → Prop
  | [] => True
  | char :: _ => char.isDigit = false ∧ char ≠ '.' ∧ char ≠ 'e' ∧ char ≠ 'E'

/-- These are the digits of a fraction or of an exponent. -/
structure IsRun (digits : List Char) : Prop where
  nonempty : digits ≠ []
  all : ∀ digit ∈ digits, digit.isDigit = true

/-- These are the digits of a whole number: only zero itself starts with a zero. -/
structure IsWhole (digits : List Char) : Prop extends IsRun digits where
  canonical : digits.head? = some '0' → digits = ['0']

/-- These are the texts of a fraction: a point and digits, or nothing. -/
inductive IsFraction : List Char → Prop
  | absent : IsFraction []
  | point {digits : List Char} (run : IsRun digits) : IsFraction ('.' :: digits)

/-- These are the texts of an exponent: its mark and digits with or without a sign, or nothing. -/
inductive IsExponent : List Char → Prop
  | absent : IsExponent []
  | marked {mark : Char} {sign digits : List Char} (isMark : mark ∈ ['e', 'E'])
      (isSign : sign ∈ [[], ['+'], ['-']]) (run : IsRun digits) :
      IsExponent (mark :: (sign ++ digits))

/-- Hex digits have their values in either letter case. -/
theorem hexValue?_digitChar {value : Nat} (small : value < 16) :
    hexValue? (Nat.digitChar value) = some value ∧
      hexValue? (Nat.digitChar value).toUpper = some value := by
  have known : ∀ value < 16, hexValue? (Nat.digitChar value) = some value ∧
      hexValue? (Nat.digitChar value).toUpper = some value := by decide
  exact known value small

theorem IsWhole.zero : IsWhole ['0'] where
  nonempty := List.cons_ne_nil _ _
  all digit member := by
    rw [List.mem_singleton.mp member]
    rfl
  canonical _ := rfl

theorem Undigited.of_head {char : Char} (noDigit : char.isDigit = false) (rest : List Char) :
    Undigited (char :: rest) := by
  simp [Undigited, noDigit]

theorem Delimited.undigited {rest : List Char} (delimited : Delimited rest) : Undigited rest := by
  cases rest with
  | nil => rfl
  | cons char rest => exact .of_head delimited.1 rest

/-- A blank cannot carry on a numeral. -/
theorem Delimited.of_blank {char : Char} (blank : isBlank char = true) (rest : List Char) :
    Delimited (char :: rest) := by
  simp only [isBlank, Bool.or_eq_true, beq_iff_eq] at blank
  rcases blank with ((rfl | rfl) | rfl) | rfl <;> exact ⟨by decide, by decide, by decide, by decide⟩

/-- Blanks before a text that cannot carry on a numeral cannot do so either. -/
theorem Delimited.blanks {blanks rest : List Char} (blank : ∀ char ∈ blanks, isBlank char = true)
    (delimited : Delimited rest) : Delimited (blanks ++ rest) := by
  cases blanks with
  | nil => exact delimited
  | cons char blanks => exact .of_blank (blank char List.mem_cons_self) _

/-- A run of digits is taken whole. -/
theorem IsRun.taken {digits rest : List Char} (run : IsRun digits) (stop : Undigited rest) :
    (digits ++ rest).takeWhile Char.isDigit = digits ∧
      (digits ++ rest).dropWhile Char.isDigit = rest := by
  have kept : rest.dropWhile Char.isDigit = rest := by
    have parts := List.takeWhile_append_dropWhile (p := Char.isDigit) (l := rest)
    rwa [stop, List.nil_append] at parts
  rw [List.takeWhile_append_of_pos run.all, List.dropWhile_append_of_pos run.all, stop, kept,
    List.append_nil]
  exact ⟨rfl, rfl⟩

/-- Text that starts with neither a digit nor a point cannot carry on a whole number. -/
def Unpointed (text : List Char) : Prop := Undigited text ∧ text.head? ≠ some '.'

theorem Delimited.unpointed {rest : List Char} (delimited : Delimited rest) : Unpointed rest := by
  refine ⟨delimited.undigited, ?_⟩
  cases rest with
  | nil => simp
  | cons char rest => simpa using delimited.2.1

/-- An exponent cannot carry on a whole number either. -/
theorem IsExponent.unpointed {exponent rest : List Char} (isExponent : IsExponent exponent)
    (delimited : Delimited rest) : Unpointed (exponent ++ rest) := by
  cases isExponent with
  | absent => exact delimited.unpointed
  | marked isMark isSign run =>
      simp only [List.mem_cons, List.not_mem_nil, or_false] at isMark
      rcases isMark with rfl | rfl <;> exact ⟨.of_head (by decide) _, by simp⟩

/-- A fraction cannot carry on the digits of a whole number. -/
theorem IsFraction.undigited {fraction rest : List Char} (isFraction : IsFraction fraction)
    (stop : Unpointed rest) : Undigited (fraction ++ rest) := by
  cases isFraction with
  | absent => exact stop.1
  | point run => exact .of_head (by decide) _

/-- A fraction is scanned as its digits. -/
theorem IsFraction.scanned {fraction : List Char} (isFraction : IsFraction fraction) :
    ∃ digits, ∀ rest, Unpointed rest → scanFraction (fraction ++ rest) = .ok (digits, rest) := by
  cases isFraction with
  | absent =>
      refine ⟨[], fun rest stop => ?_⟩
      rw [List.nil_append]
      unfold scanFraction
      split
      · exact absurd rfl stop.2
      · rfl
  | @point digits run =>
      refine ⟨digits, fun rest stop => ?_⟩
      obtain ⟨taken, left⟩ := run.taken stop.1
      rw [List.cons_append, scanFraction, taken, left]
      split
      · exact absurd rfl run.nonempty
      · rfl

/-- An exponent is scanned as its value. -/
theorem IsExponent.scanned {exponent : List Char} (isExponent : IsExponent exponent) :
    ∃ value, ∀ rest, Delimited rest → scanExponent (exponent ++ rest) = .ok (value, rest) := by
  cases isExponent with
  | absent =>
      refine ⟨none, fun rest delimited => ?_⟩
      cases rest with
      | nil => rfl
      | cons char rest => simp [scanExponent, delimited.2.2.1, delimited.2.2.2]
  | @marked mark sign digits isMark isSign run =>
      obtain ⟨first, others, rfl⟩ := List.exists_cons_of_ne_nil run.nonempty
      have digit := run.all first List.mem_cons_self
      have notMinus : first ≠ '-' := fun same => absurd (same ▸ digit) (by decide)
      have notPlus : first ≠ '+' := fun same => absurd (same ▸ digit) (by decide)
      simp only [List.mem_cons, List.not_mem_nil, or_false] at isMark isSign
      refine ⟨some (if sign = ['-'] then -(digitsValue (first :: others) : Int)
        else digitsValue (first :: others)), fun rest delimited => ?_⟩
      obtain ⟨taken, left⟩ := run.taken delimited.undigited
      rw [List.cons_append] at taken left
      rcases isSign with rfl | rfl | rfl <;>
        simp [scanExponent, isMark, taken, left, notMinus, notPlus]

/-- The whole part comes first. -/
theorem scanUnsigned_whole (negative : Bool) {whole rest : List Char} (isWhole : IsWhole whole)
    (stop : Undigited rest) :
    scanUnsigned negative (whole ++ rest) = (do
      let (fraction, rest) ← scanFraction rest
      let (exponent, rest) ← scanExponent rest
      return (⟨negative, whole, fraction, exponent⟩, rest)) := by
  obtain ⟨taken, left⟩ := isWhole.taken stop
  rw [scanUnsigned, taken, left]
  split
  · exact absurd rfl isWhole.nonempty
  · have zero := isWhole.canonical rfl
    simp at zero
  · rfl

/-- This text is a numeral without a sign, wherever it is delimited. -/
def IsNumeral (text : List Char) : Prop :=
  ∀ negative, ∃ numeral, ∀ rest, Delimited rest →
    scanUnsigned negative (text ++ rest) = .ok (numeral, rest)

/-- A whole number with its fraction and exponent is a numeral. -/
theorem IsNumeral.parts {whole fraction exponent : List Char} (isWhole : IsWhole whole)
    (isFraction : IsFraction fraction) (isExponent : IsExponent exponent) :
    IsNumeral (whole ++ fraction ++ exponent) := by
  intro negative
  obtain ⟨digits, fractionScanned⟩ := isFraction.scanned
  obtain ⟨value, exponentScanned⟩ := isExponent.scanned
  refine ⟨⟨negative, whole, digits, value⟩, fun rest delimited => ?_⟩
  have stop := isExponent.unpointed delimited
  rw [List.append_assoc, List.append_assoc,
    scanUnsigned_whole negative isWhole (isFraction.undigited stop), fractionScanned _ stop]
  simp [bind, Except.bind, exponentScanned rest delimited, pure, Except.pure]

theorem IsNumeral.whole {whole : List Char} (isWhole : IsWhole whole) : IsNumeral whole := by
  simpa using parts isWhole .absent .absent

theorem IsNumeral.fraction {whole fraction : List Char} (isWhole : IsWhole whole)
    (isFraction : IsRun fraction) : IsNumeral (whole ++ '.' :: fraction) := by
  simpa using parts isWhole (.point isFraction) .absent

/-- The sign of a written exponent is never left out. -/
theorem IsExponent.signed {sign : Char} {digits : List Char} (signed : sign = '-' ∨ sign = '+')
    (isExponent : IsRun digits) : IsExponent ('e' :: sign :: digits) :=
  @marked 'e' [sign] digits (by simp) (by rcases signed with rfl | rfl <;> simp) isExponent

theorem IsNumeral.exponent {whole digits : List Char} {sign : Char} (isWhole : IsWhole whole)
    (signed : sign = '-' ∨ sign = '+') (isExponent : IsRun digits) :
    IsNumeral (whole ++ 'e' :: sign :: digits) := by
  simpa using parts isWhole .absent (.signed signed isExponent)

theorem IsNumeral.scientific {whole fraction digits : List Char} {sign : Char}
    (isWhole : IsWhole whole) (isFraction : IsRun fraction) (signed : sign = '-' ∨ sign = '+')
    (isExponent : IsRun digits) :
    IsNumeral (whole ++ '.' :: fraction ++ 'e' :: sign :: digits) :=
  parts isWhole (.point isFraction) (.signed signed isExponent)

end CourseAdvisor.Json
