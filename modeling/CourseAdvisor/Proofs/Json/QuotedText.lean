/-
This file proves that quoted text is scanned as what it quotes.
-/

import CourseAdvisor.Json.Printer
import CourseAdvisor.Json.Token

namespace CourseAdvisor.Json

theorem scanText_quote (rest : List Char) :
    scanText none ('"' :: rest) = .closed (some []) rest := by
  rw [scanText.eq_def]
  simp

/-- An escape with one letter stands for one character. -/
theorem scanText_letter {letter char : Char} (single : letter ≠ 'u')
    (escape : escape? letter = some char) (rest : List Char) :
    scanText none ('\\' :: letter :: rest) = (scanText none rest).push char := by
  rw [scanText.eq_def]
  simp [single, escape, TextScan.spoilIf]

/-- An escape with four hex digits stands for the character with that code. -/
theorem scanText_unit {first second third fourth : Char} {unit : Nat}
    (digits : codeUnit? first second third fourth = some unit)
    (notHigh : isHighSurrogate unit = false) (notLow : isLowSurrogate unit = false)
    (rest : List Char) :
    scanText none ('\\' :: 'u' :: first :: second :: third :: fourth :: rest) =
      (scanText none rest).push (Char.ofNat unit) := by
  rw [scanText.eq_def]
  simp [digits, notHigh, notLow]

/-- Every other character that is no control character stands for itself. -/
theorem scanText_plain {char : Char} (notQuote : char ≠ '"') (notBackslash : char ≠ '\\')
    (notControl : ¬char.toNat < 32) (rest : List Char) :
    scanText none (char :: rest) = (scanText none rest).push char := by
  rw [scanText.eq_def]
  simp [notQuote, notBackslash, notControl, TextScan.spoilIf]

/-- The code of a control character is written with two hex digits. -/
theorem codeUnit?_control :
    ∀ code < 32, codeUnit? '0' '0' (hexDigit (code / 16)) (hexDigit code) = some code := by
  decide

/-- A control character is no surrogate. -/
theorem surrogate_control {code : Nat} (control : code < 32) :
    isHighSurrogate code = false ∧ isLowSurrogate code = false := by
  simp only [isHighSurrogate, isLowSurrogate, Bool.and_eq_false_iff, decide_eq_false_iff_not]
  omega

/-- An escaped character is scanned as the character. -/
theorem scanText_escaped (char : Char) (rest : List Char) :
    scanText none (escaped char ++ rest) = (scanText none rest).push char := by
  unfold escaped
  -- Seven characters have a letter of their own.
  iterate 7
    split
    case isTrue same =>
        rw [same]
        exact scanText_letter (by decide) (by decide) rest
  split
  case isTrue control =>
      obtain ⟨notHigh, notLow⟩ := surrogate_control control
      have scanned := scanText_unit (codeUnit?_control char.toNat control) notHigh notLow rest
      rwa [Char.ofNat_toNat] at scanned
  case isFalse notQuote notBackslash _ _ _ _ _ notControl =>
      exact scanText_plain notQuote notBackslash notControl rest

/-- Escaped characters are scanned up to the closing quote. -/
theorem scanText_content (content rest : List Char) :
    scanText none (content.flatMap escaped ++ '"' :: rest) = .closed (some content) rest := by
  induction content with
  | nil => exact scanText_quote rest
  | cons char content ih =>
      rw [List.flatMap_cons, List.append_assoc, scanText_escaped, ih]
      rfl

/-- A quoted text is one token, and what follows it is untouched. -/
theorem scanOne_quoted (content : String) (rest : List Char) :
    scanOne (quoted content ++ rest) = .token (.text (some content)) rest := by
  have scanned := scanText_content content.toList rest
  change Scan.ofText (scanText none ((content.toList.flatMap escaped ++ ['"']) ++ rest)) = _
  rw [List.append_assoc, List.singleton_append, scanned, Scan.ofText, Option.map_some,
    String.ofList_toList]

end CourseAdvisor.Json
