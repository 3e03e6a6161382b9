/-
This file proves that a text is scanned token by token, each from where the last one ended.
-/

import CourseAdvisor.Proofs.Json.Yielding

namespace CourseAdvisor.Json

namespace TextScan

/-- This is the text after the closing quote. -/
def rest? : TextScan → Option (List Char)
  | .closed _ rest => some rest
  | .broken _ _ => none

@[simp] theorem rest?_push (char : Char) (scan : TextScan) :
    (scan.push char).rest? = scan.rest? := by
  cases scan <;> rfl

@[simp] theorem rest?_spoil (scan : TextScan) : scan.spoil.rest? = scan.rest? := by
  cases scan <;> rfl

@[simp] theorem rest?_spoilIf (spoiled : Bool) (scan : TextScan) :
    (scan.spoilIf spoiled).rest? = scan.rest? := by
  cases spoiled <;> simp [spoilIf]

end TextScan

/-- What follows a text is the end of what follows its opening quote. -/
theorem scanText_suffix {waiting : Option Nat} {text rest : List Char}
    (closed : (scanText waiting text).rest? = some rest) : rest <:+ text := by
  fun_induction scanText waiting text
  case case2 =>
      obtain rfl := Option.some.inj closed
      exact List.suffix_cons _ _
  case case5 ih | case6 ih | case7 ih | case8 ih | case9 ih =>
      exact (ih (by simpa using closed)).trans ⟨[_, _, _, _, _, _], rfl⟩
  case case11 ih => exact (ih (by simpa using closed)).trans ⟨[_, _], rfl⟩
  case case14 ih => exact (ih (by simpa using closed)).trans ⟨[_], rfl⟩
  all_goals cases closed

/-- A scanned word is the start of the text. -/
theorem scanWord_eq {word text rest : List Char} (scanned : scanWord word text = .ok rest) :
    text = word ++ rest := by
  fun_induction scanWord word text with
  | case1 text =>
      cases scanned
      rfl
  | case2 => cases scanned
  | case3 letter word text ih => rw [ih scanned, List.cons_append]
  | case4 => cases scanned

theorem scanFraction_suffix {text digits rest : List Char}
    (scanned : scanFraction text = .ok (digits, rest)) : rest <:+ text := by
  unfold scanFraction at scanned
  split at scanned
  case h_1 text =>
      split at scanned
      · cases scanned
      · cases scanned
        exact (List.dropWhile_suffix _).trans (List.suffix_cons _ _)
  case h_2 =>
      cases scanned
      exact List.suffix_refl _

theorem scanExponent_suffix {text rest : List Char} {exponent : Option Int}
    (scanned : scanExponent text = .ok (exponent, rest)) : rest <:+ text := by
  unfold scanExponent at scanned
  split at scanned
  case h_1 =>
      cases scanned
      exact List.suffix_refl _
  case h_2 char text =>
      split at scanned
      case isTrue =>
          dsimp only at scanned
          split at scanned
          · cases scanned
          · cases scanned
            refine (List.dropWhile_suffix _).trans ?_
            split
            · exact ⟨[_, _], rfl⟩
            · exact ⟨[_, _], rfl⟩
            · exact List.suffix_cons _ _
      case isFalse =>
          cases scanned
          exact List.suffix_refl _

/-- A numeral without its sign is a whole part, a fraction and an exponent. -/
theorem scanUnsigned_eq_ok {negative : Bool} {text rest : List Char} {numeral : Numeral} :
    scanUnsigned negative text = .ok (numeral, rest) ↔
      text.takeWhile Char.isDigit ≠ [] ∧
        (∀ digit digits, text.takeWhile Char.isDigit ≠ '0' :: digit :: digits) ∧
        ∃ fraction exponent left, scanFraction (text.dropWhile Char.isDigit) = .ok (fraction, left) ∧
          scanExponent left = .ok (exponent, rest) ∧
          numeral = ⟨negative, text.takeWhile Char.isDigit, fraction, exponent⟩ := by
  unfold scanUnsigned
  split
  case h_1 none =>
      rw [none]
      simp
  case h_2 zero =>
      rw [zero]
      simp
  case h_3 nonempty canonical =>
      constructor
      case mp =>
          intro scanned
          obtain ⟨⟨fraction, left⟩, first, others⟩ := bind_eq_ok scanned
          obtain ⟨⟨exponent, beyond⟩, second, last⟩ := bind_eq_ok others
          cases last
          exact ⟨nonempty, fun _ _ => canonical _ _, fraction, exponent, left, first, second, rfl⟩
      case mpr =>
          rintro ⟨-, -, fraction, exponent, left, first, second, rfl⟩
          simp [first, second, bind, Except.bind, pure, Except.pure]

/-- A numeral takes its digits from the front of the text. -/
theorem scanUnsigned_properSuffix {negative : Bool} {text rest : List Char} {numeral : Numeral}
    (scanned : scanUnsigned negative text = .ok (numeral, rest)) :
    rest <:+ text ∧ rest.length < text.length := by
  obtain ⟨nonempty, _, fraction, exponent, left, first, second, _⟩ := scanUnsigned_eq_ok.mp scanned
  have suffix := (scanExponent_suffix second).trans (scanFraction_suffix first)
  refine ⟨suffix.trans (List.dropWhile_suffix _), ?_⟩
  have parts := congrArg List.length
    (List.takeWhile_append_dropWhile (p := Char.isDigit) (l := text))
  rw [List.length_append] at parts
  have positive := List.length_pos_iff.mpr nonempty
  have shorter := suffix.length_le
  omega

namespace Scan

/-- This is the text after the token. -/
def rest? : Scan → Option (List Char)
  | .token _ rest => some rest
  | _ => none

theorem rest?_ofWord {token : Token} {word text rest : List Char}
    (scanned : (ofWord token (scanWord word text)).rest? = some rest) : rest <:+ text := by
  cases result : scanWord word text with
  | error fault =>
      rw [result] at scanned
      cases scanned
  | ok left =>
      rw [result] at scanned
      obtain rfl := Option.some.inj scanned
      rw [scanWord_eq result]
      exact List.suffix_append word left

theorem rest?_ofNumeral {negative : Bool} {text rest : List Char}
    (scanned : (ofNumeral (scanUnsigned negative text)).rest? = some rest) :
    rest <:+ text ∧ rest.length < text.length := by
  cases result : scanUnsigned negative text with
  | error fault =>
      rw [result] at scanned
      cases scanned
  | ok pair =>
      obtain ⟨numeral, left⟩ := pair
      rw [result] at scanned
      obtain rfl := Option.some.inj scanned
      exact scanUnsigned_properSuffix result

theorem rest?_ofText {waiting : Option Nat} {text rest : List Char}
    (scanned : (ofText (scanText waiting text)).rest? = some rest) : rest <:+ text := by
  cases result : scanText waiting text with
  | broken decoding skipping =>
      rw [result] at scanned
      cases scanned
  | closed content left =>
      rw [result] at scanned
      obtain rfl := Option.some.inj scanned
      exact scanText_suffix (by rw [result]; rfl)

end Scan

/-- A token takes its first character and no text before it. -/
theorem scanFrom_suffix {char : Char} {text rest : List Char}
    (scanned : (scanFrom char text).rest? = some rest) : rest <:+ text := by
  unfold scanFrom at scanned
  split at scanned
  case h_7 | h_8 | h_9 => exact Scan.rest?_ofWord scanned
  case h_10 => exact Scan.rest?_ofText scanned
  case h_11 => exact (Scan.rest?_ofNumeral scanned).1
  case h_12 =>
      split at scanned
      · -- A numeral takes the character as its first digit.
        obtain ⟨suffix, shorter⟩ := Scan.rest?_ofNumeral scanned
        obtain rfl | suffix := List.suffix_cons_iff.mp suffix
        · exact absurd shorter (Nat.lt_irrefl _)
        · exact suffix
      · cases scanned
  all_goals
    obtain rfl := Option.some.inj scanned
    exact List.suffix_refl _

/-- The first character that is no blank decides which token comes. -/
theorem scanOne_eq_token {text left : List Char} {head : Token} :
    scanOne text = .token head left ↔
      ∃ char rest, text.dropWhile isBlank = char :: rest ∧ scanFrom char rest = .token head left := by
  unfold scanOne
  split
  case h_1 blank => simp [blank]
  case h_2 char rest split =>
      rw [split]
      constructor
      · exact fun first => ⟨char, rest, rfl, first⟩
      · intro found
        obtain ⟨_, _, same, first⟩ := found
        cases same
        exact first

/-- Every token takes at least one character from the front of the text. -/
theorem scanOne_properSuffix {text rest : List Char} {head : Token}
    (scanned : scanOne text = .token head rest) : rest <:+ text ∧ rest.length < text.length := by
  obtain ⟨char, after, split, first⟩ := scanOne_eq_token.mp scanned
  have kept : rest <:+ after := scanFrom_suffix (by rw [first]; rfl)
  have blanks := List.dropWhile_suffix isBlank (l := text)
  rw [split] at blanks
  refine ⟨(kept.trans (List.suffix_cons char after)).trans blanks, ?_⟩
  have shorter := kept.length_le
  have whole := blanks.length_le
  rw [List.length_cons] at whole
  omega

/-- More fuel than characters does not matter. -/
theorem scanWithin_congr {first second : Nat} {text : List Char} (firstEnough : text.length < first)
    (secondEnough : text.length < second) : scanWithin first text = scanWithin second text := by
  induction first generalizing second text with
  | zero => omega
  | succ first ih =>
      cases second with
      | zero => omega
      | succ second =>
          rw [scanWithin, scanWithin]
          cases scanned : scanOne text with
          | token head rest =>
              have shorter := (scanOne_properSuffix scanned).2
              have same : scanWithin first rest = scanWithin second rest :=
                ih (by omega) (by omega)
              simp only [same]
          | finished => rfl
          | broken decoding skipping => rfl
          | brokenText decoding skipping => rfl

/-- The tape of a text is its first token and the tape of what follows it. -/
theorem scan_token {text rest : List Char} {head : Token}
    (scanned : scanOne text = .token head rest) : scan text = .token head (scan rest) := by
  have shorter := (scanOne_properSuffix scanned).2
  rw [scan, scanWithin, scanned]
  simp only
  rw [scan, scanWithin_congr (by omega) (Nat.lt_succ_self _)]

/-- Blanks in front of a text leave no trace on its tape. -/
theorem scan_blank {char : Char} (blank : isBlank char = true) (text : List Char) :
    scan (char :: text) = scan text := by
  have same : scanOne (char :: text) = scanOne text := by
    unfold scanOne
    rw [List.dropWhile_cons_of_pos blank]
  cases scanned : scanOne text with
  | token head rest => rw [scan_token scanned, scan_token (same.trans scanned)]
  | finished => simp [scan, scanWithin, same, scanned]
  | broken decoding skipping => simp [scan, scanWithin, same, scanned]
  | brokenText decoding skipping => simp [scan, scanWithin, same, scanned]

/-- A run of blanks leaves no trace either. -/
theorem scan_blanks {blanks : List Char} (blank : ∀ char ∈ blanks, isBlank char = true)
    (text : List Char) : scan (blanks ++ text) = scan text := by
  induction blanks with
  | nil => rfl
  | cons char blanks ih =>
      rw [List.cons_append, scan_blank (blank char List.mem_cons_self),
        ih fun other member => blank other (List.mem_cons_of_mem char member)]

@[simp] theorem scan_nil : scan [] = .finished := rfl

end CourseAdvisor.Json
