/-
This file proves how the tape of a text changes when the text is cut off or goes on.
-/

import CourseAdvisor.Proofs.Json.Cuts

namespace CourseAdvisor.Json

namespace TextScan

/-- More text stands after what follows a closing quote. -/
def append (more : List Char) : TextScan → TextScan
  | .closed content rest => .closed content (rest ++ more)
  | scan => scan

variable (more : List Char) (scan : TextScan)

@[simp] theorem append_push (char : Char) :
    (scan.push char).append more = (scan.append more).push char := by
  cases scan <;> rfl

@[simp] theorem append_spoil : scan.spoil.append more = (scan.append more).spoil := by
  cases scan <;> rfl

@[simp] theorem append_spoilIf (spoiled : Bool) :
    (scan.spoilIf spoiled).append more = (scan.append more).spoilIf spoiled := by
  cases spoiled <;> simp [spoilIf]

end TextScan

/-- A text that closes is scanned alike when more text follows. -/
theorem scanText_append {waiting : Option Nat} {text : List Char} (more : List Char)
    (closed : (scanText waiting text).rest? ≠ none) :
    scanText waiting (text ++ more) = (scanText waiting text).append more := by
  fun_induction scanText waiting text
  case case2 =>
    rw [List.cons_append, scanText.eq_def]
    simp [TextScan.append]
  case case5 ih | case6 ih | case7 ih | case8 ih | case9 ih | case11 ih | case14 ih =>
    have inner := ih (by simpa using closed)
    simp only [List.cons_append, TextScan.append_push, TextScan.append_spoil,
      TextScan.append_spoilIf, ← inner]
    rw [scanText.eq_def]
    simp [*]
  all_goals exact absurd rfl closed

/-- A run that ends within a text ends there when more text follows. -/
theorem run_append {test : Char → Bool} {text : List Char} (more : List Char)
    (ends : text.dropWhile test ≠ []) :
    (text ++ more).takeWhile test = text.takeWhile test ∧
      (text ++ more).dropWhile test = text.dropWhile test ++ more := by
  have parts := List.takeWhile_append_dropWhile (p := test) (l := text)
  have shorter : (text.takeWhile test).length ≠ text.length := by
    intro same
    have whole := congrArg List.length parts
    rw [List.length_append, same] at whole
    exact ends (List.length_eq_zero_iff.mp (by omega))
  rw [List.takeWhile_append, List.dropWhile_append, if_neg shorter,
    if_neg (by simpa using ends)]
  exact ⟨rfl, rfl⟩

/-- A fraction that ends within a text ends there when more text follows. -/
theorem scanFraction_append {text digits rest : List Char} (more : List Char)
    (scanned : scanFraction text = .ok (digits, rest)) (ends : rest ≠ []) :
    scanFraction (text ++ more) = .ok (digits, rest ++ more) := by
  unfold scanFraction at scanned
  split at scanned
  case h_1 after =>
      split at scanned
      case h_1 => cases scanned
      case h_2 =>
          cases scanned
          obtain ⟨taken, left⟩ := run_append more ends
          rw [List.cons_append, scanFraction, taken, left]
          split
          · contradiction
          · rfl
  case h_2 unpointed =>
      cases scanned
      obtain ⟨first, others, rfl⟩ := List.exists_cons_of_ne_nil ends
      rw [List.cons_append]
      unfold scanFraction
      split
      case h_1 same =>
          obtain ⟨rfl, -⟩ := List.cons.inj same
          exact absurd rfl (unpointed _)
      case h_2 => rfl

/-- This scans the digits of an exponent, whose sign has been taken. -/
def scanPower (negative : Bool) (text : List Char) : Except Fault (Option Int × List Char) :=
  match text.takeWhile Char.isDigit with
  | [] => .error (missing text)
  | digits =>
      let value : Int := digitsValue digits
      .ok (some (if negative then -value else value), text.dropWhile Char.isDigit)

theorem scanPower_append {negative : Bool} {text rest : List Char} {exponent : Option Int}
    (more : List Char) (scanned : scanPower negative text = .ok (exponent, rest)) (ends : rest ≠ []) :
    scanPower negative (text ++ more) = .ok (exponent, rest ++ more) := by
  unfold scanPower at scanned
  split at scanned
  case h_1 => cases scanned
  case h_2 =>
      cases scanned
      obtain ⟨taken, left⟩ := run_append more ends
      rw [scanPower, taken, left]
      split
      · contradiction
      · rfl

/-- The character after the mark of an exponent may be its sign. -/
theorem scanExponent_marked {mark : Char} (isMark : mark = 'e' ∨ mark = 'E') (first : Char)
    (others : List Char) :
    scanExponent (mark :: first :: others) =
      if first = '-' then scanPower true others
      else if first = '+' then scanPower false others
      else scanPower false (first :: others) := by
  unfold scanExponent
  dsimp only
  rw [if_pos isMark]
  by_cases minus : first = '-'
  · subst minus
    rfl
  · by_cases plus : first = '+'
    · subst plus
      rfl
    · rw [if_neg minus, if_neg plus, scanPower]
      cases digits : (first :: others).takeWhile Char.isDigit <;> simp [minus, plus, digits]

/-- An exponent that ends within a text ends there when more text follows. -/
theorem scanExponent_append {text rest : List Char} {exponent : Option Int} (more : List Char)
    (scanned : scanExponent text = .ok (exponent, rest)) (ends : rest ≠ []) :
    scanExponent (text ++ more) = .ok (exponent, rest ++ more) := by
  cases text with
  | nil =>
      cases scanned
      exact absurd rfl ends
  | cons char after =>
      by_cases isMark : char = 'e' ∨ char = 'E'
      case pos =>
          cases after with
          | nil => simp [scanExponent, isMark] at scanned
          | cons first others =>
              rw [scanExponent_marked isMark] at scanned
              rw [List.cons_append, List.cons_append, scanExponent_marked isMark]
              split
              case isTrue minus =>
                  rw [if_pos minus] at scanned
                  exact scanPower_append more scanned ends
              case isFalse notMinus =>
                  rw [if_neg notMinus] at scanned
                  split
                  case isTrue plus =>
                      rw [if_pos plus] at scanned
                      exact scanPower_append more scanned ends
                  case isFalse notPlus =>
                      rw [if_neg notPlus] at scanned
                      exact scanPower_append more scanned ends
      case neg =>
          have same (others : List Char) : scanExponent (char :: others) = .ok (none, char :: others) :=
            if_neg isMark
          rw [same] at scanned
          cases scanned
          exact same _

/-- A numeral that ends within a text ends there when more text follows. -/
theorem scanUnsigned_append {negative : Bool} {text rest : List Char} {numeral : Numeral}
    (more : List Char) (scanned : scanUnsigned negative text = .ok (numeral, rest))
    (ends : rest ≠ []) : scanUnsigned negative (text ++ more) = .ok (numeral, rest ++ more) := by
  obtain ⟨nonempty, canonical, fraction, exponent, left, first, second, rfl⟩ :=
    scanUnsigned_eq_ok.mp scanned
  have goesOn : left ≠ [] := fun ended =>
    ends (List.suffix_nil.mp (ended ▸ scanExponent_suffix second))
  have beyond : text.dropWhile Char.isDigit ≠ [] := fun ended =>
    goesOn (List.suffix_nil.mp (ended ▸ scanFraction_suffix first))
  obtain ⟨taken, dropped⟩ := run_append more beyond
  rw [scanUnsigned_eq_ok, taken, dropped]
  exact ⟨nonempty, canonical, fraction, exponent, left ++ more,
    scanFraction_append more first goesOn, scanExponent_append more second ends, rfl⟩

/-- A word that ends within a text ends there when more text follows. -/
theorem scanWord_append {word text rest : List Char} (more : List Char)
    (scanned : scanWord word text = .ok rest) : scanWord word (text ++ more) = .ok (rest ++ more) := by
  fun_induction scanWord word text with
  | case1 text =>
      cases scanned
      rfl
  | case2 => cases scanned
  | case3 letter word text ih =>
      rw [List.cons_append, scanWord, if_pos rfl]
      exact ih scanned
  | case4 => cases scanned

namespace Scan

variable {head : Token} {left : List Char} (more : List Char)

theorem ofWord_append {token : Token} {word text : List Char}
    (scanned : ofWord token (scanWord word text) = .token head left) :
    ofWord token (scanWord word (text ++ more)) = .token head (left ++ more) := by
  cases result : scanWord word text with
  | error fault =>
      rw [result] at scanned
      cases scanned
  | ok rest =>
      rw [result] at scanned
      cases scanned
      rw [scanWord_append more result]
      rfl

theorem ofNumeral_append {negative : Bool} {text : List Char}
    (scanned : ofNumeral (scanUnsigned negative text) = .token head left) (ends : left ≠ []) :
    ofNumeral (scanUnsigned negative (text ++ more)) = .token head (left ++ more) := by
  cases result : scanUnsigned negative text with
  | error fault =>
      rw [result] at scanned
      cases scanned
  | ok pair =>
      rw [result] at scanned
      cases scanned
      rw [scanUnsigned_append more result ends]
      rfl

theorem ofText_append {waiting : Option Nat} {text : List Char}
    (scanned : ofText (scanText waiting text) = .token head left) :
    ofText (scanText waiting (text ++ more)) = .token head (left ++ more) := by
  cases result : scanText waiting text with
  | broken decoding skipping =>
      rw [result] at scanned
      cases scanned
  | closed content rest =>
      rw [result] at scanned
      cases scanned
      rw [scanText_append more (by simp [result, TextScan.rest?]), result]
      rfl

/-- What is scanned as a numeral is no other token. -/
theorem ofNumeral_head {result : Except Fault (Numeral × List Char)}
    (scanned : ofNumeral result = .token head left) : ∃ numeral, head = .number numeral := by
  cases result with
  | error fault => cases scanned
  | ok pair =>
      cases scanned
      exact ⟨_, rfl⟩

end Scan

/-- A token that ends within a text ends there when more text follows; a number at the end of the
text might go on. -/
theorem scanFrom_append {char : Char} {text left : List Char} {head : Token} (more : List Char)
    (scanned : scanFrom char text = .token head left)
    (ends : ∀ numeral, head = .number numeral → left ≠ []) :
    scanFrom char (text ++ more) = .token head (left ++ more) := by
  unfold scanFrom at scanned ⊢
  split at scanned
  case h_7 | h_8 | h_9 => exact Scan.ofWord_append more scanned
  case h_10 => exact Scan.ofText_append more scanned
  case h_11 =>
      obtain ⟨numeral, isNumber⟩ := Scan.ofNumeral_head scanned
      exact Scan.ofNumeral_append more scanned (ends numeral isNumber)
  case h_12 =>
      split at scanned
      case isTrue digit =>
          obtain ⟨numeral, isNumber⟩ := Scan.ofNumeral_head scanned
          rw [if_pos digit]
          exact Scan.ofNumeral_append more scanned (ends numeral isNumber)
      case isFalse => cases scanned
  all_goals
    cases scanned
    rfl

/-- What starts like a number is scanned as a number wherever it ends. -/
theorem scanFrom_number {char : Char} {text left : List Char} {numeral : Numeral}
    (scanned : scanFrom char text = .token (.number numeral) left) (other : List Char) :
    ∃ result, scanFrom char other = .ofNumeral result := by
  unfold scanFrom at scanned
  split at scanned
  case h_7 | h_8 | h_9 =>
      unfold Scan.ofWord at scanned
      split at scanned <;> cases scanned
  case h_10 =>
      unfold Scan.ofText at scanned
      split at scanned <;> cases scanned
  case h_11 => exact ⟨_, rfl⟩
  case h_12 =>
      split at scanned
      case isTrue digit => exact ⟨_, scanFrom_digit digit other⟩
      case isFalse => cases scanned
  all_goals cases scanned

/-- A token that ends within a text is scanned alike when more text follows. -/
theorem scanOne_append {text left : List Char} {head : Token} (more : List Char)
    (scanned : scanOne text = .token head left)
    (ends : ∀ numeral, head = .number numeral → left ≠ []) :
    scanOne (text ++ more) = .token head (left ++ more) := by
  obtain ⟨char, rest, split, first⟩ := scanOne_eq_token.mp scanned
  have stops : text.dropWhile isBlank ≠ [] := by simp [split]
  rw [scanOne_eq_token, (run_append more stops).2, split]
  exact ⟨char, rest ++ more, rfl, scanFrom_append more first ends⟩

/-- A number that is cut off is a number, when it is a token at all. -/
theorem scanOne_shortened {text left more rest : List Char} {numeral : Numeral} {head : Token}
    (part : scanOne text = .token (.number numeral) left)
    (whole : scanOne (text ++ more) = .token head rest) : ∃ longer, head = .number longer := by
  obtain ⟨char, others, split, first⟩ := scanOne_eq_token.mp part
  have stops : text.dropWhile isBlank ≠ [] := by simp [split]
  obtain ⟨_, _, same, second⟩ := scanOne_eq_token.mp whole
  rw [(run_append more stops).2, split] at same
  obtain ⟨rfl, rfl⟩ := List.cons.inj same
  obtain ⟨result, isNumeral⟩ := scanFrom_number first (others ++ more)
  exact Scan.ofNumeral_head (isNumeral.symm.trans second)

/-- A tape starts with the first token of its text and goes on with what follows it. -/
theorem scan_eq_token {text : List Char} {head : Token} {rest : Tape} :
    scan text = .token head rest ↔ ∃ left, scanOne text = .token head left ∧ scan left = rest := by
  constructor
  case mp =>
      intro whole
      cases scanned : scanOne text with
      | token other left =>
          rw [scan_token scanned] at whole
          obtain ⟨rfl, same⟩ := Tape.token.inj whole
          exact ⟨left, rfl, same⟩
      | finished | broken | brokenText => simp [scan, scanWithin, scanned] at whole
  case mpr =>
      intro first
      obtain ⟨left, scanned, others⟩ := first
      rw [scan_token scanned, others]

/-- Some token comes wherever a character is no blank, or it is broken. -/
theorem scanFrom_unfinished (char : Char) (text : List Char) : scanFrom char text ≠ .finished := by
  unfold scanFrom
  split
  case h_7 | h_8 | h_9 =>
      unfold Scan.ofWord
      split <;> exact Scan.noConfusion
  case h_10 =>
      unfold Scan.ofText
      split <;> exact Scan.noConfusion
  case h_11 =>
      unfold Scan.ofNumeral
      split <;> exact Scan.noConfusion
  case h_12 =>
      unfold Scan.ofNumeral
      split
      · split <;> exact Scan.noConfusion
      · exact Scan.noConfusion
  all_goals exact Scan.noConfusion

/-- Nothing is on the tape of blanks, and something is on any other. -/
theorem scan_eq_finished {text : List Char} :
    scan text = .finished ↔ ∀ char ∈ text, isBlank char = true := by
  constructor
  case mp =>
      intro finished
      rw [← List.dropWhile_eq_nil_iff]
      by_contra notBlank
      obtain ⟨char, rest, split⟩ := List.exists_cons_of_ne_nil notBlank
      have first : scanOne text = scanFrom char rest := by rw [scanOne, split]
      have unfinished := scanFrom_unfinished char rest
      rw [← first] at unfinished
      cases scanned : scanOne text with
      | finished => exact unfinished scanned
      | token | broken | brokenText => simp [scan, scanWithin, scanned] at finished
  case mpr =>
      intro blank
      simpa using scan_blanks blank []

/-- The tape of a text that is cut off in front of more than blanks is the tape of the text, cut
off. -/
theorem scan_cut {part more : List Char} {tokens : List Token}
    (whole : scan (part ++ more) = Tape.push tokens .finished)
    (within : ∃ char ∈ more, isBlank char = false) : Cut (scan (part ++ more)) (scan part) := by
  induction tokens generalizing part with
  | nil =>
      obtain ⟨char, member, notBlank⟩ := within
      have blank := scan_eq_finished.mp whole char (List.mem_append_right part member)
      simp [blank] at notBlank
  | cons head tokens ih =>
      obtain ⟨rest, first, others⟩ := scan_eq_token.mp whole
      rw [whole]
      cases scanned : scanOne part with
      | finished | broken | brokenText =>
          rw [scan, scanWithin, scanned]
          exact .ended (by constructor)
      | token other left =>
          rw [scan_token scanned]
          by_cases ends : ∀ numeral, other = .number numeral → left ≠ []
          case pos =>
              have goesOn := scanOne_append more scanned ends
              rw [first] at goesOn
              obtain ⟨rfl, rfl⟩ := Scan.token.inj goesOn
              have cut := ih others
              rw [others] at cut
              exact .later cut
          case neg =>
              push Not at ends
              obtain ⟨part, rfl, rfl⟩ := ends
              obtain ⟨longer, rfl⟩ := scanOne_shortened scanned first
              exact .shortened

/-- A tape that does not end with a number goes on with the tape of what follows its text. -/
theorem scan_append {text : List Char} {tokens : List Token} {last : Token} (more : List Char)
    (scanned : scan text = Tape.push (tokens ++ [last]) .finished)
    (notNumber : ∀ numeral, last ≠ .number numeral) :
    scan (text ++ more) = Tape.push (tokens ++ [last]) (scan more) := by
  induction tokens generalizing text with
  | nil =>
      obtain ⟨left, first, others⟩ := scan_eq_token.mp scanned
      have goesOn := scanOne_append more first fun numeral same => absurd same (notNumber numeral)
      rw [scan_token goesOn, scan_blanks (scan_eq_finished.mp others)]
      rfl
  | cons head tokens ih =>
      obtain ⟨left, first, others⟩ := scan_eq_token.mp scanned
      have ends : left ≠ [] := by
        intro ended
        subst ended
        cases tokens <;> cases others
      have goesOn := scanOne_append more first fun _ _ => ends
      rw [scan_token goesOn, ih others]
      rfl

/-- A bracket is a character of its own. -/
def Token.bracket? : Token → Option Char
  | .openObject => some '\x7b'
  | .closeObject => some '\x7d'
  | .openList => some '['
  | .closeList => some ']'
  | _ => none

theorem scanFrom_bracket {char bracket : Char} {text left : List Char} {head : Token}
    (scanned : scanFrom char text = .token head left) (isBracket : head.bracket? = some bracket) :
    char = bracket ∧ left = text := by
  have notNumber (numeral : Numeral) : head ≠ .number numeral := by
    intro same
    rw [same] at isBracket
    cases isBracket
  unfold scanFrom at scanned
  split at scanned
  case h_7 | h_8 | h_9 =>
      unfold Scan.ofWord at scanned
      split at scanned <;> cases scanned
      cases isBracket
  case h_10 =>
      unfold Scan.ofText at scanned
      split at scanned <;> cases scanned
      cases isBracket
  case h_11 =>
      obtain ⟨numeral, isNumber⟩ := Scan.ofNumeral_head scanned
      exact absurd isNumber (notNumber numeral)
  case h_12 =>
      split at scanned
      · obtain ⟨numeral, isNumber⟩ := Scan.ofNumeral_head scanned
        exact absurd isNumber (notNumber numeral)
      · cases scanned
  all_goals
    cases scanned
    cases isBracket
  all_goals exact ⟨rfl, rfl⟩

/-- Blanks may stand in front of a bracket. -/
theorem scanOne_bracket {bracket : Char} {text left : List Char} {head : Token}
    (scanned : scanOne text = .token head left) (isBracket : head.bracket? = some bracket) :
    ∃ blanks, IsBlanks blanks ∧ text = blanks ++ bracket :: left := by
  obtain ⟨char, rest, split, first⟩ := scanOne_eq_token.mp scanned
  obtain ⟨rfl, rfl⟩ := scanFrom_bracket first isBracket
  refine ⟨text.takeWhile isBlank, ?_, ?_⟩
  · rw [isBlanks_iff]
    intro char member
    exact List.mem_takeWhile_imp member
  · rw [← split, List.takeWhile_append_dropWhile]

/-- Nothing but blanks stands after the last bracket. -/
theorem scan_closing {bracket : Char} {text : List Char} {tokens : List Token} {last : Token}
    (scanned : scan text = Tape.push (tokens ++ [last]) .finished)
    (isBracket : last.bracket? = some bracket) :
    ∃ front after, text = front ++ bracket :: after ∧ IsBlanks after := by
  induction tokens generalizing text with
  | nil =>
      obtain ⟨left, first, others⟩ := scan_eq_token.mp scanned
      obtain ⟨blanks, _, rfl⟩ := scanOne_bracket first isBracket
      exact ⟨blanks, left, rfl, isBlanks_iff.mpr (scan_eq_finished.mp others)⟩
  | cons head tokens ih =>
      obtain ⟨left, first, others⟩ := scan_eq_token.mp scanned
      obtain ⟨front, after, rfl, areBlanks⟩ := ih others
      obtain ⟨piece, rfl⟩ := (scanOne_properSuffix first).1
      exact ⟨piece ++ front, after, by simp, areBlanks⟩

/-- The outermost brackets of a text match, with blanks around them. The front ends before the
closing one, and the back starts with it. -/
inductive Bracketed : List Char → List Char → Prop
  | brackets {before inner after : List Char} {opening closing : Char}
      (pair : (opening, closing) ∈ [('\x7b', '\x7d'), ('[', ']')]) (blankBefore : IsBlanks before)
      (blankAfter : IsBlanks after) : Bracketed (before ++ opening :: inner) (closing :: after)

/-- The closing bracket is no blank. -/
theorem Bracketed.back_notBlank {front back : List Char} (bracketed : Bracketed front back) :
    ¬IsBlanks back := by
  obtain ⟨pair, _, _⟩ := bracketed
  intro blank
  have closing := blank _ List.mem_cons_self
  simp only [List.mem_cons, Prod.mk.injEq, List.not_mem_nil, or_false] at pair
  obtain ⟨-, rfl⟩ | ⟨-, rfl⟩ := pair
  · exact absurd closing (by decide)
  · exact absurd closing (by decide)

/-- The brackets of a tape are those of its text. -/
theorem scan_enclosed {text : List Char} {inner : List Token} {opening closing : Token}
    (pair : (opening, closing) ∈ [(Token.openObject, Token.closeObject), (.openList, .closeList)])
    (scanned : scan text = Tape.push (opening :: inner ++ [closing]) .finished) :
    ∃ front back, text = front ++ back ∧ Bracketed front back := by
  obtain ⟨left, first, others⟩ := scan_eq_token.mp scanned
  obtain ⟨start, stop, opens, closes, matching⟩ : ∃ start stop, opening.bracket? = some start ∧
      closing.bracket? = some stop ∧ (start, stop) ∈ [('\x7b', '\x7d'), ('[', ']')] := by
    simp only [List.mem_cons, Prod.mk.injEq, List.not_mem_nil, or_false] at pair
    obtain ⟨rfl, rfl⟩ | ⟨rfl, rfl⟩ := pair
    · exact ⟨_, _, rfl, rfl, by simp⟩
    · exact ⟨_, _, rfl, rfl, by simp⟩
  obtain ⟨before, blankBefore, rfl⟩ := scanOne_bracket first opens
  obtain ⟨front, after, rfl, blankAfter⟩ := scan_closing others closes
  exact ⟨before ++ start :: front, stop :: after, by simp, .brackets matching blankBefore blankAfter⟩

end CourseAdvisor.Json
