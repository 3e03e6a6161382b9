/-
This file proves that grammatical text is scanned as the tokens of its lexemes.
-/

import CourseAdvisor.Proofs.Json.Grammar
import CourseAdvisor.Proofs.Json.Tokens

namespace CourseAdvisor.Json

/-- This text is scanned as these tokens, before any text that cannot carry on a numeral. -/
def Scans (text : List Char) (tokens : List Token) : Prop :=
  ∀ ⦃rest⦄, Delimited rest → scan (text ++ rest) = (scan rest).push tokens

theorem isBlanks_iff {text : List Char} :
    IsBlanks text ↔ ∀ char ∈ text, isBlank char = true := by
  simp [IsBlanks, isBlank, or_assoc]

theorem IsBlanks.isBlank {text : List Char} (areBlanks : IsBlanks text) :
    ∀ char ∈ text, isBlank char = true :=
  isBlanks_iff.mp areBlanks

theorem Scans.single {text : List Char} {token : Token}
    (scanned : ∀ ⦃rest⦄, Delimited rest → scanOne (text ++ rest) = .token token rest) :
    Scans text [token] :=
  fun _ delimited => scan_token (scanned delimited)

/-- A text that stands alone is scanned as its tokens and nothing else. -/
theorem Scans.alone {text : List Char} {tokens : List Token} (scans : Scans text tokens) :
    scan text = Tape.push tokens .finished := by
  have scanned := scans (show Delimited [] from trivial)
  rwa [List.append_nil, scan_nil] at scanned

/-- Blanks around a text leave no trace. -/
theorem Scans.padded {padded : Padded} {tokens : List Token} (scans : Scans padded.core tokens) :
    Scans padded.text tokens := by
  intro rest delimited
  rw [Padded.text, List.append_assoc, List.append_assoc, scan_blanks padded.blankBefore.isBlank,
    scans (delimited.blanks padded.blankAfter.isBlank), scan_blanks padded.blankAfter.isBlank]

/-- The tape of parts with commas between them has commas between their tokens. -/
theorem Scans.parts {texts : List (List Char)} {tokens : List (List Token)}
    (scans : List.Forall₂ Scans texts tokens) :
    Scans ([','].intercalate texts) ([.comma].intercalate tokens) := by
  induction scans with
  | nil => exact fun _ _ => rfl
  | cons first others ih =>
      cases others with
      | nil => simpa using first
      | cons second further =>
          intro rest delimited
          have comma (after : List Char) : scan (',' :: after) = .token .comma (scan after) :=
            scan_token rfl
          rw [List.intercalate_cons_cons, List.intercalate_cons_cons, List.append_assoc,
            List.append_assoc, List.singleton_append,
            first (delimited_punctuation (by simp) _), comma, ih delimited]
          simp

/-- Brackets are tokens of their own. -/
theorem Scans.enclosed {opening closing : Char} {opened closed : Token} {blanks : List Char}
    {texts : List (List Char)} {tokens : List (List Token)}
    (opens : ∀ rest, scanOne (opening :: rest) = .token opened rest)
    (closes : ∀ rest, scanOne (closing :: rest) = .token closed rest)
    (punctuation : closing ∈ [',', ']', '\x7d']) (areBlanks : IsBlanks blanks)
    (scans : List.Forall₂ Scans texts tokens) :
    Scans (enclosed opening blanks texts closing)
      (opened :: ([.comma].intercalate tokens ++ [closed])) := by
  intro rest _
  have inner := Scans.parts scans (delimited_punctuation punctuation rest)
  simp only [Json.enclosed, List.cons_append, List.append_assoc, List.nil_append]
  rw [scan_token (opens _), scan_blanks areBlanks.isBlank, inner, scan_token (closes rest)]
  simp

/-- An entry is scanned as its key, a colon and its value. -/
theorem Scans.entry {entry : Entry} {content : Option String} {tokens : List Token}
    (key : Scans entry.key.core [.text content]) (value : Scans entry.value.core tokens) :
    Scans entry.text (.text content :: .colon :: tokens) := by
  intro rest delimited
  have colon (after : List Char) : scan (':' :: after) = .token .colon (scan after) :=
    scan_token rfl
  have stop (after : List Char) : Delimited (':' :: after) := by
    exact ⟨by decide, by decide, by decide, by decide⟩
  rw [Entry.text, List.append_assoc, List.cons_append, key.padded (stop _), colon,
    value.padded delimited]
  rfl

/-- A hex digit has its value. -/
theorem IsHexDigit.value {char : Char} {value : Nat} (isDigit : IsHexDigit char value) :
    hexValue? char = some value := by
  obtain ⟨small, rfl | rfl⟩ := isDigit
  · exact (hexValue?_digitChar small).1
  · exact (hexValue?_digitChar small).2

/-- The digits of an escape give its code unit. -/
theorem IsUnit.digits_eq {code : Nat} {text : List Char} (isUnit : IsUnit code text) :
    ∃ first second third fourth, text = ['\\', 'u', first, second, third, fourth] ∧
      codeUnit? first second third fourth = some code := by
  obtain ⟨isTop, isUpper, isLower, isLast⟩ := isUnit
  refine ⟨_, _, _, _, rfl, ?_⟩
  simp [codeUnit?, isTop.value, isUpper.value, isLower.value, isLast.value]

/-- A letter escapes its character. -/
theorem escape?_letter {letter char : Char} (escape : (letter, char) ∈ letterEscapes) :
    letter ≠ 'u' ∧ escape? letter = some char := by
  have known : ∀ pair ∈ letterEscapes, pair.1 ≠ 'u' ∧ escape? pair.1 = some pair.2 := by decide
  exact known (letter, char) escape

/-- A closing quote ends what a piece of quoted text starts. -/
theorem IsPiece.closed {piece body : List Char} (isPiece : IsPiece piece)
    (closed : ∀ waiting, ∃ content, ∀ rest,
      scanText waiting (body ++ '"' :: rest) = .closed content rest) (waiting : Option Nat) :
    ∃ content, ∀ rest,
      scanText waiting (piece ++ (body ++ '"' :: rest)) = .closed content rest := by
  obtain ⟨content, after⟩ := closed none
  cases isPiece with
  | @plain char isPlain =>
      obtain ⟨notQuote, notBackslash, notControl⟩ := isPlain
      refine ⟨if waiting.isSome then none else content.map (char :: ·), fun rest => ?_⟩
      rw [List.singleton_append, scanText.eq_def]
      cases waiting <;>
        simp [notQuote, notBackslash, Nat.not_lt.mpr notControl, after, TextScan.push,
          TextScan.spoilIf, TextScan.spoil]
  | @letter letter char escape =>
      obtain ⟨notUnit, escaped⟩ := escape?_letter escape
      refine ⟨if waiting.isSome then none else content.map (char :: ·), fun rest => ?_⟩
      rw [List.cons_append, List.singleton_append, scanText.eq_def]
      cases waiting <;>
        simp [notUnit, escaped, after, TextScan.push, TextScan.spoilIf, TextScan.spoil]
  | @unit code _ isUnit =>
      obtain ⟨first, second, third, fourth, rfl, digits⟩ := isUnit.digits_eq
      obtain ⟨halved, afterHigh⟩ := closed (some code)
      simp only [List.cons_append, List.nil_append]
      cases waiting with
      | some high =>
          refine ⟨if isLowSurrogate code then content.map (pairedChar high code :: ·) else none,
            fun rest => ?_⟩
          rw [scanText.eq_def]
          cases low : isLowSurrogate code <;>
            simp [digits, low, after, TextScan.push, TextScan.spoil]
      | none =>
          refine ⟨if isHighSurrogate code then halved
            else if isLowSurrogate code then none else content.map (Char.ofNat code :: ·),
            fun rest => ?_⟩
          rw [scanText.eq_def]
          cases high : isHighSurrogate code <;> cases low : isLowSurrogate code <;>
            simp [digits, high, low, after, afterHigh, TextScan.push, TextScan.spoil]

/-- Quoted text is one token when its closing quote is found. -/
theorem Scans.quoted {body : List Char} {content : Option (List Char)}
    (scanned : ∀ rest, scanText none (body ++ '"' :: rest) = .closed content rest) :
    Scans ('"' :: body ++ ['"']) [.text (content.map String.ofList)] := by
  refine Scans.single fun rest _ => ?_
  change Scan.ofText (scanText none ((body ++ ['"']) ++ rest)) = _
  rw [List.append_assoc, List.singleton_append, scanned, Scan.ofText]

/-- Quoted text may name halves of characters. -/
theorem IsQuoted.scans {text : List Char} (isQuoted : IsQuoted text) :
    ∃ content, Scans text [.text content] := by
  obtain @⟨pieces, arePieces⟩ := isQuoted
  have closed (waiting : Option Nat) : ∃ content, ∀ rest,
      scanText waiting (pieces.flatten ++ '"' :: rest) = .closed content rest := by
    induction pieces generalizing waiting with
    | nil =>
        refine ⟨if waiting.isSome then none else some [], fun rest => ?_⟩
        rw [scanText.eq_def]
        simp
    | cons piece pieces ih =>
        simp only [List.flatten_cons, List.append_assoc]
        exact (arePieces piece List.mem_cons_self).closed
          (ih fun other member => arePieces other (List.mem_cons_of_mem piece member)) waiting
  obtain ⟨content, scanned⟩ := closed none
  exact ⟨content.map String.ofList, .quoted scanned⟩

/-- A character is no surrogate. -/
theorem surrogate_char (char : Char) :
    isHighSurrogate char.toNat = false ∧ isLowSurrogate char.toNat = false := by
  have valid : char.toNat < 0xd800 ∨ 0xdfff < char.toNat ∧ char.toNat < 0x110000 := char.valid
  simp only [isHighSurrogate, isLowSurrogate, Bool.and_eq_false_iff, decide_eq_false_iff_not]
  omega

/-- Whatever spells a character is scanned as the character. -/
theorem Spells.scanned {char : Char} {piece : List Char} (spells : Spells char piece)
    (rest : List Char) : scanText none (piece ++ rest) = (scanText none rest).push char := by
  cases spells with
  | plain isPlain =>
      obtain ⟨notQuote, notBackslash, notControl⟩ := isPlain
      exact scanText_plain notQuote notBackslash (Nat.not_lt.mpr notControl) rest
  | letter escape =>
      obtain ⟨notUnit, escaped⟩ := escape?_letter escape
      exact scanText_letter notUnit escaped rest
  | unit isUnit =>
      obtain ⟨first, second, third, fourth, rfl, digits⟩ := isUnit.digits_eq
      obtain ⟨notHigh, notLow⟩ := surrogate_char char
      have scanned := scanText_unit digits notHigh notLow rest
      rwa [Char.ofNat_toNat] at scanned
  | @pair _ high low _ _ isFirst isSecond isHigh isLow named =>
      obtain ⟨_, _, _, _, rfl, firstDigits⟩ := isFirst.digits_eq
      obtain ⟨_, _, _, _, rfl, secondDigits⟩ := isSecond.digits_eq
      have high : isHighSurrogate high = true := by simpa [isHighSurrogate] using isHigh
      have low : isLowSurrogate low = true := by simpa [isLowSurrogate] using isLow
      simp only [List.cons_append, List.nil_append]
      rw [scanText.eq_def]
      simp only [reduceIte, firstDigits, high, Char.reduceEq]
      rw [scanText.eq_def]
      simp [secondDigits, low, pairedChar, ← named]

/-- Quoted text is the token of its content, whatever follows it. -/
theorem Quotes.scanned {content : String} {text : List Char} (quotes : Quotes content text)
    (rest : List Char) : scanOne (text ++ rest) = .token (.text (some content)) rest := by
  obtain @⟨pieces, spelling⟩ := quotes
  have inner : scanText none (pieces.flatten ++ '"' :: rest) =
      .closed (some content.toList) rest := by
    generalize content.toList = chars at spelling ⊢
    induction spelling with
    | nil => exact scanText_quote rest
    | cons spells others ih =>
        rw [List.flatten_cons, List.append_assoc, spells.scanned, ih]
        rfl
  change Scan.ofText (scanText none ((pieces.flatten ++ ['"']) ++ rest)) = _
  rw [List.append_assoc, List.singleton_append, inner, Scan.ofText, Option.map_some,
    String.ofList_toList]

theorem Quotes.scans {content : String} {text : List Char} (quotes : Quotes content text) :
    Scans text [.text (some content)] :=
  Scans.single fun rest _ => quotes.scanned rest

/-- A number is one token. -/
theorem IsNumber.scans {text : List Char} (isNumber : IsNumber text) :
    Scans text [numeralToken text] := by
  obtain ⟨isSign, isWhole, isFraction, isExponent⟩ := isNumber
  have isNumeral := IsNumeral.parts isWhole isFraction isExponent
  simp only [List.mem_cons, List.not_mem_nil, or_false] at isSign
  rcases isSign with rfl | rfl
  · exact Scans.single fun _ delimited => scanOne_numeral isNumeral false delimited
  · exact Scans.single fun _ delimited => scanOne_numeral isNumeral true delimited

/-- This is the token of a lexeme. -/
def lexemeToken (lexeme : List Char) : Token :=
  match scanOne lexeme with
  | .token head _ => head
  | _ => .null

theorem Scans.lexeme {text : List Char} {token : Token} (scans : Scans text [token]) :
    lexemeToken text = token := by
  have alone := scans.alone
  rw [scan, scanWithin] at alone
  unfold lexemeToken
  cases scanned : scanOne text with
  | token head rest =>
      rw [scanned] at alone
      exact (Tape.token.inj alone).1
  | finished | broken | brokenText =>
      rw [scanned] at alone
      cases alone

theorem map_intercalate {α β : Type} (convert : α → β) (separator : List α)
    (parts : List (List α)) :
    (separator.intercalate parts).map convert =
      (separator.map convert).intercalate (parts.map (List.map convert)) := by
  induction parts with
  | nil => rfl
  | cons part parts ih =>
      cases parts with
      | nil => simp
      | cons second further =>
          simp only [List.map_cons] at ih ⊢
          rw [List.intercalate_cons_cons, List.intercalate_cons_cons, List.map_append,
            List.map_append, ih]

end CourseAdvisor.Json
