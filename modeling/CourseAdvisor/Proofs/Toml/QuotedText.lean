/-
This file proves that text in any of the four kinds of quotes is read back.
-/

import CourseAdvisor.Proofs.Json.Numerals
import CourseAdvisor.Proofs.Toml.Lines
import CourseAdvisor.Toml.Quoted

namespace CourseAdvisor.Toml

open Json (hexValue? hexValue?_digitChar)

/-- The hex digits of an escape are read back. -/
theorem hexValue?_upperHexDigit (value : Nat) :
    hexValue? (upperHexDigit value) = some (value % 16) :=
  (hexValue?_digitChar (Nat.mod_lt value (by decide))).2

/-- A character of two hex digits is read back from its code. -/
theorem readCodePoint_code {char : Char} (small : char.toNat < 256) (rest : List Char) :
    readCodePoint 4 ('0' :: '0' :: upperHexDigit (char.toNat / 16) ::
      upperHexDigit char.toNat :: rest) = some (char, rest) := by
  have digits : ['0', '0', upperHexDigit (char.toNat / 16), upperHexDigit char.toNat].mapM
      hexValue? = some [0, 0, char.toNat / 16 % 16, char.toNat % 16] := by
    have zero : hexValue? '0' = some 0 := by decide
    simp [zero, hexValue?_upperHexDigit]
  have code : [0, 0, char.toNat / 16 % 16, char.toNat % 16].foldl
      (fun code digit => code * 16 + digit) 0 = char.toNat := by
    simp only [List.foldl_cons, List.foldl_nil]
    omega
  have four : (guard ([0, 0, char.toNat / 16 % 16, char.toNat % 16].length = 4) : Option Unit) =
      some () := if_pos rfl
  have valid : (guard char.toNat.isValidChar : Option Unit) = some () := if_pos char.valid
  have taken : ('0' :: '0' :: upperHexDigit (char.toNat / 16) :: upperHexDigit char.toNat ::
      rest).take 4 = ['0', '0', upperHexDigit (char.toNat / 16), upperHexDigit char.toNat] := rfl
  rw [readCodePoint, taken, digits, Option.bind_eq_bind, Option.bind_some, four,
    Option.bind_eq_bind, Option.bind_some]
  dsimp only
  rw [code, valid, Option.bind_some, Char.ofNat_toNat]
  rfl

/-- What follows a backslash is an escape or the end of a line, and not both. -/
theorem lineContinuation?_eq_none {text : List Char} {result : Char × List Char}
    (escape : readEscape text = some result) : lineContinuation? text = none := by
  unfold readEscape at escape
  split at escape
  case h_10 => cases escape
  all_goals rfl

/-- This text stands for a character in basic quotes, for one line or for many. -/
inductive StandsFor (isLong : Bool) (char : Char) : List Char → Prop
  | plain (shown : isShown char = true) (quoted : char = '"' → isLong = true)
      (notBackslash : char ≠ '\\') : StandsFor isLong char [char]
  | newline (long : isLong = true) (feed : char = '\n') : StandsFor isLong char ['\n']
  | escape {tail : List Char}
      (read : ∀ rest, readEscape (tail ++ rest) = some (char, rest)) :
      StandsFor isLong char ('\\' :: tail)

theorem escapedChar_standsFor (isLong : Bool) {char : Char} (notQuote : char ≠ '"') :
    StandsFor isLong char (escapedChar isLong char) := by
  unfold escapedChar
  -- The backslash, the backspace and the tab have a letter of their own.
  iterate 3
    split
    case isTrue same =>
        rw [same]
        exact .escape fun rest => rfl
  case isFalse notBackslash _ _ =>
      split
      case isTrue feed =>
          cases isLong with
          | true => exact .newline rfl feed
          | false =>
              rw [feed]
              exact .escape fun rest => rfl
      case isFalse =>
          iterate 2
            split
            case isTrue same =>
                rw [same]
                exact .escape fun rest => rfl
          split
          case isTrue control =>
              exact .escape fun rest => readCodePoint_code (by omega) rest
          case isFalse shown =>
              refine .plain ?_ (fun isQuote => absurd isQuote notQuote) notBackslash
              simp [isShown]
              omega

/-- What stands for a character does not start with a quote. -/
theorem StandsFor.head {isLong : Bool} {char : Char} {written : List Char}
    (stands : StandsFor isLong char written) (notQuote : char ≠ '"') :
    ∃ first others, written = first :: others ∧ first ≠ '"' := by
  cases stands with
  | plain => exact ⟨char, [], rfl, notQuote⟩
  | newline => exact ⟨'\n', [], rfl, by decide⟩
  | escape => exact ⟨'\\', _, rfl, by decide⟩

/-- One after another, the characters are written as what stands for them. -/
theorem escapedText_cons (isLong : Bool) (run : Nat) (char : Char) (text : List Char) :
    ∃ written next, StandsFor isLong char written ∧ next ≤ 2 ∧
      escapedText isLong run (char :: text) = written ++ escapedText isLong next text := by
  rw [escapedText]
  split
  case isTrue isQuote =>
      rw [isQuote]
      split
      case isTrue raw =>
          exact ⟨['"'], run + 1, .plain (by decide) (fun _ => raw.1) (by decide), raw.2, rfl⟩
      case isFalse => exact ⟨['\\', '"'], 0, .escape fun _ => rfl, Nat.zero_le 2, rfl⟩
  case isFalse notQuote =>
      exact ⟨_, 0, escapedChar_standsFor isLong notQuote, Nat.zero_le 2, rfl⟩

theorem readBasicWithin_standsFor {char : Char} {written : List Char}
    (stands : StandsFor false char written) (fuel : Nat) (rest : List Char) :
    readBasicWithin (fuel + 1) (written ++ rest) = prepend char (readBasicWithin fuel rest) := by
  cases stands with
  | plain shown quoted notBackslash =>
      rw [List.singleton_append, readBasicWithin]
      · rw [if_pos shown]
      · exact fun isQuote => Bool.false_ne_true (quoted isQuote)
      · exact notBackslash
  | newline long => cases long
  | escape read =>
      rw [List.cons_append, readBasicWithin, read, Option.bind_eq_bind, Option.bind_some]

/-- Basic text of one line is read back. -/
theorem readBasicWithin_escapedText (text rest : List Char) {run fuel : Nat}
    (enough : text.length ≤ fuel) :
    readBasicWithin (fuel + 1) (escapedText false run text ++ '"' :: rest) = some (text, rest) := by
  induction text generalizing run fuel with
  | nil => rfl
  | cons char text ih =>
      obtain ⟨fuel, rfl⟩ := Nat.exists_eq_add_of_le' (Nat.one_le_of_lt enough)
      obtain ⟨written, next, stands, _, same⟩ := escapedText_cons false run char text
      rw [same, List.append_assoc, readBasicWithin_standsFor stands,
        ih (Nat.le_of_succ_le_succ enough)]
      rfl

/-- Quotes of one line never come first in the text between them. -/
theorem escapedText_head (run : Nat) (text : List Char) :
    (escapedText false run text).head? ≠ some '"' := by
  cases text with
  | nil => exact (Option.some_ne_none '"').symm
  | cons char text =>
      rw [escapedText]
      split
      case isTrue => rw [if_neg (by simp), List.head?_cons]; decide
      case isFalse notQuote =>
          obtain ⟨first, others, same, plain⟩ :=
            (escapedChar_standsFor false notQuote).head notQuote
          rw [same, List.cons_append, List.head?_cons]
          exact fun isQuote => plain (Option.some.inj isQuote)

theorem readLiteral_append {text : List Char}
    (plain : ∀ char ∈ text, isShown char = true ∧ char ≠ '\'') (rest : List Char) :
    readLiteral (text ++ '\'' :: rest) = some (text, rest) := by
  induction text with
  | nil => rfl
  | cons char text ih =>
      rw [List.forall_mem_cons] at plain
      rw [List.cons_append, readLiteral, if_pos plain.1.1, ih plain.2]
      · rfl
      · exact plain.1.2

/-- A few quotes belong to the text when three more close it. -/
theorem closingRun?_append {quote : Char} {text rest : List Char}
    (few : (text.takeWhile (· = quote)).length ≤ 2) (ended : rest.head? ≠ some quote) :
    closingRun? quote (text ++ quote :: quote :: quote :: rest) =
      if text.all (· = quote) then some (text, rest) else none := by
  unfold closingRun?
  dsimp only
  by_cases allQuotes : text.all (· = quote) = true
  case pos =>
      have all : ∀ char ∈ text, char = quote := by simpa using allQuotes
      have none : rest.takeWhile (· = quote) = [] := by
        cases rest with
        | nil => rfl
        | cons char rest =>
            exact List.takeWhile_cons_of_neg (by simpa using fun same => ended (congrArg some same))
      have taken : text.takeWhile (· = quote) = text :=
        List.takeWhile_eq_self_iff.mpr (by simpa using all)
      have run : ((text ++ quote :: quote :: quote :: rest).takeWhile (· = quote)).length =
          text.length + 3 := by
        rw [List.takeWhile_append_of_pos (by simpa using all)]
        simp [none]
      have extra : min (text.length + 3 - 3) 2 = text.length := by
        rw [taken] at few
        omega
      have left : (text ++ quote :: quote :: quote :: rest).drop (text.length + 3) = rest := by
        rw [← List.drop_drop, List.drop_left]
        rfl
      rw [run, extra, left, ← List.eq_replicate_of_mem all, if_pos (by omega), if_pos allQuotes]
  case neg =>
      have partly : (text.takeWhile (· = quote)).length ≠ text.length := by
        intro same
        have taken : text.takeWhile (· = quote) = text :=
          (List.takeWhile_prefix _).eq_of_length same
        exact allQuotes (List.all_eq_true.mpr (List.takeWhile_eq_self_iff.mp taken))
      rw [List.takeWhile_append, if_neg partly, if_neg (by omega), if_neg allQuotes]

/-- No shown character ends a line. -/
theorem readNewline_shown {char : Char} (shown : isShown char = true) (rest : List Char) :
    readNewline (char :: rest) = none := by
  unfold readNewline
  split
  case h_1 same => exact absurd ((List.cons.inj same).1 ▸ shown) (by decide)
  case h_2 same => exact absurd ((List.cons.inj same).1 ▸ shown) (by decide)
  case h_3 => rfl

/-- A character is read from long quotes unless the quotes close before it. -/
theorem readLongBasicWithin_standsFor {char : Char} {written rest : List Char}
    (stands : StandsFor true char written) (opened : closingRun? '"' (written ++ rest) = none)
    (fuel : Nat) :
    readLongBasicWithin (fuel + 1) (written ++ rest) =
      prepend char (readLongBasicWithin fuel rest) := by
  rw [readLongBasicWithin.eq_def]
  dsimp only
  rw [opened]
  cases stands with
  | plain shown quoted notBackslash =>
      rw [List.singleton_append]
      dsimp only
      split
      case h_1 same => cases same
      case h_2 same => exact absurd (List.cons.inj same).1 notBackslash
      case h_3 same =>
          obtain ⟨rfl, rfl⟩ := List.cons.inj same
          rw [readNewline_shown shown]
          dsimp only
          rw [if_pos shown]
  | newline long feed =>
      rw [feed]
      rfl
  | escape read =>
      rw [List.cons_append]
      dsimp only
      split
      case h_1 same => cases same
      case h_2 same =>
          obtain ⟨_, rfl⟩ := List.cons.inj same
          rw [lineContinuation?_eq_none (read rest)]
          dsimp only
          rw [read, Option.bind_eq_bind, Option.bind_some]
      case h_3 other same => exact absurd (List.cons.inj same).1.symm other

/-- At most two quotes in a row come first in the text between long quotes. -/
theorem escapedText_few (text : List Char) {run : Nat} (few : run ≤ 2) :
    run + ((escapedText true run text).takeWhile (· = '"')).length ≤ 2 := by
  induction text generalizing run with
  | nil => simpa [escapedText] using few
  | cons char text ih =>
      rw [escapedText]
      split
      case isTrue =>
          split
          case isTrue more =>
              have tail : run + 1 + _ ≤ 2 := ih more.2
              rw [List.takeWhile_cons_of_pos (by simp), List.length_cons]
              omega
          case isFalse => simpa using few
      case isFalse notQuote =>
          obtain ⟨first, others, same, plain⟩ :=
            (escapedChar_standsFor true notQuote).head notQuote
          rw [same, List.cons_append, List.takeWhile_cons_of_neg (by simpa using plain)]
          exact few

/-- What is written with quotes alone is written as it is. -/
theorem escapedText_quotes {run : Nat} {text : List Char}
    (quotes : (escapedText true run text).all (· = '"') = true) :
    escapedText true run text = text := by
  induction text generalizing run with
  | nil => rfl
  | cons char text ih =>
      rw [escapedText] at quotes ⊢
      split at quotes
      case isTrue isQuote =>
          rw [if_pos isQuote]
          split at quotes
          case isTrue more =>
              rw [List.all_cons, Bool.and_eq_true] at quotes
              rw [if_pos more, ih quotes.2, isQuote]
          case isFalse => simp at quotes
      case isFalse notQuote =>
          obtain ⟨first, others, same, plain⟩ :=
            (escapedChar_standsFor true notQuote).head notQuote
          rw [same, List.cons_append, List.all_cons, Bool.and_eq_true, decide_eq_true_iff] at quotes
          exact absurd quotes.1 plain

/-- Quotes right before the closing ones are read back. -/
theorem readLongBasicWithin_quotes {text rest : List Char} {run : Nat} (few : run ≤ 2)
    (ended : rest.head? ≠ some '"')
    (quotes : (escapedText true run text).all (· = '"') = true) (fuel : Nat) :
    readLongBasicWithin (fuel + 1) (escapedText true run text ++ '"' :: '"' :: '"' :: rest) =
      some (text, rest) := by
  have leading := Nat.le_trans (Nat.le_add_left _ _) (escapedText_few text few)
  rw [readLongBasicWithin.eq_def]
  dsimp only
  rw [closingRun?_append leading ended, if_pos quotes, escapedText_quotes quotes]

/-- Basic text of many lines is read back. -/
theorem readLongBasicWithin_escapedText (text : List Char) {rest : List Char} {run : Nat}
    (few : run ≤ 2) (ended : rest.head? ≠ some '"') {fuel : Nat} (enough : text.length ≤ fuel) :
    readLongBasicWithin (fuel + 1) (escapedText true run text ++ '"' :: '"' :: '"' :: rest) =
      some (text, rest) := by
  -- The run counts the quotes right before the text, so it bounds the quotes that come first.
  induction text generalizing run fuel with
  | nil => exact readLongBasicWithin_quotes few ended rfl fuel
  | cons char text ih =>
      by_cases quotes : (escapedText true run (char :: text)).all (· = '"') = true
      case pos => exact readLongBasicWithin_quotes few ended quotes fuel
      case neg =>
          have leading := Nat.le_trans (Nat.le_add_left _ _) (escapedText_few (char :: text) few)
          have opened := closingRun?_append leading ended
          obtain ⟨fuel, rfl⟩ := Nat.exists_eq_add_of_le' (Nat.one_le_of_lt enough)
          obtain ⟨written, next, stands, fewNext, same⟩ := escapedText_cons true run char text
          rw [if_neg quotes, same, List.append_assoc] at opened
          rw [same, List.append_assoc, readLongBasicWithin_standsFor stands opened,
            ih fewNext (Nat.le_of_succ_le_succ enough)]
          rfl

/-- The first run of quotes is none longer than the longest. -/
theorem takeWhile_le_longestRun (quote : Char) (text : List Char) (current : Nat) :
    current + (text.takeWhile (· = quote)).length ≤ longestRun quote current text := by
  induction text generalizing current with
  | nil => exact Nat.le_refl current
  | cons char text ih =>
      rw [longestRun]
      split
      case isTrue same =>
          have tail := ih (current + 1)
          rw [List.takeWhile_cons_of_pos (by simpa using same), List.length_cons]
          omega
      case isFalse other =>
          rw [List.takeWhile_cons_of_neg (by simpa using other)]
          exact Nat.le_max_left _ _

theorem longestRun_mono (quote : Char) (text : List Char) {current other : Nat}
    (le : current ≤ other) : longestRun quote current text ≤ longestRun quote other text := by
  induction text generalizing current other with
  | nil => exact le
  | cons char text ih =>
      rw [longestRun, longestRun]
      split
      case isTrue => exact ih (Nat.add_le_add_right le 1)
      case isFalse => omega

/-- Later runs are no longer than the longest. -/
theorem longestRun_tail (quote char : Char) (text : List Char) :
    longestRun quote 0 text ≤ longestRun quote 0 (char :: text) := by
  rw [longestRun]
  split
  case isTrue => exact longestRun_mono quote text (Nat.zero_le 1)
  case isFalse => exact Nat.le_max_right _ _

/-- Quotes right before the closing ones are read back. -/
theorem readLongLiteralWithin_quotes {text rest : List Char}
    (few : longestRun '\'' 0 text ≤ 2) (ended : rest.head? ≠ some '\'')
    (quotes : text.all (· = '\'') = true) (fuel : Nat) :
    readLongLiteralWithin (fuel + 1) (text ++ '\'' :: '\'' :: '\'' :: rest) =
      some (text, rest) := by
  have leading := Nat.le_trans (Nat.le_add_left _ _) (takeWhile_le_longestRun '\'' text 0)
  rw [readLongLiteralWithin.eq_def]
  dsimp only
  rw [closingRun?_append (Nat.le_trans leading few) ended, if_pos quotes]

/-- Literal text of many lines is read back. -/
theorem readLongLiteralWithin_append {text rest : List Char}
    (plain : ∀ char ∈ text, isShown char = true ∨ char = '\n')
    (few : longestRun '\'' 0 text ≤ 2) (ended : rest.head? ≠ some '\'') {fuel : Nat}
    (enough : text.length ≤ fuel) :
    readLongLiteralWithin (fuel + 1) (text ++ '\'' :: '\'' :: '\'' :: rest) =
      some (text, rest) := by
  induction text generalizing fuel with
  | nil => exact readLongLiteralWithin_quotes few ended rfl fuel
  | cons char text ih =>
      by_cases quotes : (char :: text).all (· = '\'') = true
      case pos => exact readLongLiteralWithin_quotes few ended quotes fuel
      case neg =>
          have leading :=
            Nat.le_trans (Nat.le_add_left _ _) (takeWhile_le_longestRun '\'' (char :: text) 0)
          have opened := closingRun?_append (Nat.le_trans leading few) ended
          obtain ⟨fuel, rfl⟩ := Nat.exists_eq_add_of_le' (Nat.one_le_of_lt enough)
          rw [List.forall_mem_cons] at plain
          have tail := ih plain.2 (Nat.le_trans (longestRun_tail _ char text) few)
            (Nat.le_of_succ_le_succ enough)
          rw [if_neg quotes] at opened
          rw [readLongLiteralWithin.eq_def]
          dsimp only
          rw [opened, List.cons_append]
          dsimp only
          rcases plain.1 with shown | rfl
          · rw [readNewline_shown shown]
            dsimp only
            rw [if_pos shown, tail]
            rfl
          · change prepend '\n' (readLongLiteralWithin _ _) = _
            rw [tail]
            rfl

/-- These quotes bring the text back. -/
def Quotes.Fits (text : List Char) : Quotes → Prop
  | .basic | .longBasic => True
  | .literal => ∀ char ∈ text, isShown char = true ∧ char ≠ '\''
  | .longLiteral =>
      (∀ char ∈ text, isShown char = true ∨ char = '\n') ∧ longestRun '\'' 0 text ≤ 2

/-- A character without a code is shown or ends a line. -/
theorem isShown_of_uncoded {char : Char} (uncoded : needsCode char = false) :
    isShown char = true ∨ char = '\n' := by
  simp only [needsCode, Bool.or_eq_false_iff, Bool.and_eq_false_iff, decide_eq_false_iff_not,
    bne_eq_false_iff_eq, beq_eq_false_iff_ne] at uncoded
  obtain ⟨(large | isTab) | feed, notDelete⟩ := uncoded
  · left
    simp [isShown, notDelete]
    omega
  · exact .inl (isTab ▸ rfl)
  · exact .inr feed

theorem isShown_of_any {text : List Char} (uncoded : text.any needsCode = false) :
    ∀ char ∈ text, isShown char = true ∨ char = '\n' := by
  intro char member
  exact isShown_of_uncoded (by simpa using List.any_eq_false.mp uncoded char member)

/-- Text without a run of quotes has no quotes. -/
theorem ne_of_longestRun {quote : Char} {text : List Char}
    (none : longestRun quote 0 text = 0) : ∀ char ∈ text, char ≠ quote := by
  induction text with
  | nil => exact fun _ member => absurd member List.not_mem_nil
  | cons char text ih =>
      have leading := takeWhile_le_longestRun quote (char :: text) 0
      have tail := longestRun_tail quote char text
      rw [List.forall_mem_cons]
      constructor
      · rintro rfl
        rw [none, List.takeWhile_cons_of_pos (by simp), List.length_cons] at leading
        omega
      · exact ih (by omega)

theorem Quotes.forText_fits (text : List Char) : (Quotes.forText text).Fits text := by
  unfold Quotes.forText
  dsimp only
  split
  case isTrue => trivial
  case isFalse =>
      split
      case isTrue literal =>
          simp only [Bool.and_eq_true, Bool.not_eq_true', beq_iff_eq] at literal
          obtain ⟨⟨uncoded, noQuotes⟩, short⟩ := literal
          intro char member
          refine ⟨?_, ne_of_longestRun noQuotes char member⟩
          rcases isShown_of_any uncoded char member with shown | rfl
          · exact shown
          · rw [List.contains_iff_mem.mpr member] at short
            cases short
      case isFalse =>
          split
          case isTrue => trivial
          case isFalse =>
              split
              case isTrue long =>
                  simp only [Bool.and_eq_true, Bool.not_eq_true', decide_eq_true_iff] at long
                  exact ⟨isShown_of_any long.1, long.2⟩
              case isFalse => split <;> trivial

/-- What stands for a character takes at least one character. -/
theorem length_escapedText (isLong : Bool) (run : Nat) (text : List Char) :
    text.length ≤ (escapedText isLong run text).length := by
  induction text generalizing run with
  | nil => exact Nat.zero_le _
  | cons char text ih =>
      obtain ⟨written, next, stands, _, same⟩ := escapedText_cons isLong run char text
      have tail := ih next
      have one : 1 ≤ written.length := by
        cases stands with
        | plain | newline => exact Nat.le_refl 1
        | escape => exact Nat.succ_le_succ (Nat.zero_le _)
      rw [same, List.length_append, List.length_cons]
      omega

/-- Text of one line does not start with the end of a line between long quotes. -/
theorem readNewline_escapedText {text : List Char} (oneLine : '\n' ∉ text) (rest : List Char) :
    readNewline (escapedText true 0 text ++ '"' :: rest) = none := by
  cases text with
  | nil => rfl
  | cons char text =>
      rw [List.mem_cons, not_or] at oneLine
      obtain ⟨written, next, stands, _, same⟩ := escapedText_cons true 0 char text
      rw [same, List.append_assoc]
      cases stands with
      | plain shown => exact readNewline_shown shown _
      | newline long feed => exact absurd feed.symm oneLine.1
      | escape => rfl

theorem readNewline_literal {text : List Char}
    (plain : ∀ char ∈ text, isShown char = true ∨ char = '\n') (oneLine : '\n' ∉ text)
    (rest : List Char) : readNewline (text ++ '\'' :: rest) = none := by
  cases text with
  | nil => rfl
  | cons char text =>
      rw [List.mem_cons, not_or] at oneLine
      rcases plain char List.mem_cons_self with shown | feed
      · exact readNewline_shown shown _
      · exact absurd feed.symm oneLine.1

/-- The newline right after long quotes is left out, and no other. -/
theorem skipNewline_opening {text body : List Char}
    (oneLine : '\n' ∉ text → readNewline body = none) :
    skipNewline (opening text ++ body) = body := by
  unfold opening
  split
  case isTrue => rfl
  case isFalse noFeed =>
      have none := oneLine fun member => noFeed (List.contains_iff_mem.mpr member)
      rw [List.nil_append, skipNewline, none]

/-- Short quotes at the end of a line do not look like long ones. -/
theorem append_ne_long {quote : Char} (notFeed : quote ≠ '\n') {text : List Char}
    (plain : text.head? ≠ some quote) {rest others : List Char} :
    text ++ quote :: '\n' :: rest ≠ quote :: quote :: others := by
  intro same
  cases text with
  | nil =>
      rw [List.nil_append] at same
      exact notFeed (List.cons.inj (List.cons.inj same).2).1.symm
  | cons char text => exact plain (congrArg some (List.cons.inj same).1)

theorem readText_basic (text rest : List Char) :
    readText (quotedIn text .basic ++ '\n' :: rest) = some (String.ofList text, '\n' :: rest) := by
  have shape : quotedIn text .basic ++ '\n' :: rest =
      '"' :: (escapedText false 0 text ++ '"' :: '\n' :: rest) := by simp [quotedIn]
  have enough : text.length ≤ (escapedText false 0 text ++ '"' :: '\n' :: rest).length := by
    rw [List.length_append]
    exact Nat.le_add_right_of_le (length_escapedText false 0 text)
  rw [shape, readText, readBasicWithin_escapedText text _ enough]
  · rfl
  · intro others
    exact append_ne_long (by decide) (escapedText_head 0 text)

theorem readText_literal {text : List Char} (fits : Quotes.literal.Fits text) (rest : List Char) :
    readText (quotedIn text .literal ++ '\n' :: rest) =
      some (String.ofList text, '\n' :: rest) := by
  have shape : quotedIn text .literal ++ '\n' :: rest = '\'' :: (text ++ '\'' :: '\n' :: rest) := by
    simp [quotedIn]
  rw [shape, readText, readLiteral_append fits]
  · rfl
  · intro others
    exact append_ne_long (by decide)
      fun isQuote => (fits _ (List.mem_of_mem_head? isQuote)).2 rfl

theorem readText_longBasic (text rest : List Char) :
    readText (quotedIn text .longBasic ++ '\n' :: rest) =
      some (String.ofList text, '\n' :: rest) := by
  generalize isBody : escapedText true 0 text ++ '"' :: '"' :: '"' :: '\n' :: rest = body
  have shape : quotedIn text .longBasic ++ '\n' :: rest =
      '"' :: '"' :: '"' :: (opening text ++ body) := by simp [quotedIn, ← isBody]
  have skipped : skipNewline (opening text ++ body) = body :=
    skipNewline_opening fun oneLine => isBody ▸ readNewline_escapedText oneLine _
  have enough : text.length ≤ (opening text ++ body).length := by
    rw [← isBody, List.length_append, List.length_append]
    have length := length_escapedText true 0 text
    omega
  rw [shape, readText, skipped, ← isBody,
    readLongBasicWithin_escapedText text (Nat.zero_le 2) (by simp) (isBody ▸ enough)]
  rfl

theorem readText_longLiteral {text : List Char} (fits : Quotes.longLiteral.Fits text)
    (rest : List Char) :
    readText (quotedIn text .longLiteral ++ '\n' :: rest) =
      some (String.ofList text, '\n' :: rest) := by
  generalize isBody : text ++ '\'' :: '\'' :: '\'' :: '\n' :: rest = body
  have shape : quotedIn text .longLiteral ++ '\n' :: rest =
      '\'' :: '\'' :: '\'' :: (opening text ++ body) := by simp [quotedIn, ← isBody]
  have skipped : skipNewline (opening text ++ body) = body :=
    skipNewline_opening fun oneLine => isBody ▸ readNewline_literal fits.1 oneLine _
  have enough : text.length ≤ (opening text ++ body).length := by
    rw [← isBody, List.length_append, List.length_append]
    omega
  rw [shape, readText, skipped, ← isBody,
    readLongLiteralWithin_append fits.1 fits.2 (by simp) (isBody ▸ enough)]
  rfl

/-- Every kind of quotes brings back the text that it fits. -/
theorem readText_quotedIn {text : List Char} {quotes : Quotes} (fits : quotes.Fits text)
    (rest : List Char) :
    readText (quotedIn text quotes ++ '\n' :: rest) = some (String.ofList text, '\n' :: rest) := by
  cases quotes with
  | basic => exact readText_basic text rest
  | literal => exact readText_literal fits rest
  | longBasic => exact readText_longBasic text rest
  | longLiteral => exact readText_longLiteral fits rest

theorem quotedIn_head (text : List Char) (quotes : Quotes) :
    ∃ body, quotedIn text quotes = '"' :: body ∨ quotedIn text quotes = '\'' :: body := by
  cases quotes with
  | basic | longBasic => exact ⟨_, .inl rfl⟩
  | literal | longLiteral => exact ⟨_, .inr rfl⟩

/-- A quoted text is read back from its line. -/
theorem quoted_denotes (text : String) : Denotes (quoted text) (.string text) := by
  obtain ⟨body, isBody⟩ := quotedIn_head text.toList (.forText text.toList)
  have read := readText_quotedIn (Quotes.forText_fits text.toList)
  rw [String.ofList_toList] at read
  rw [quoted]
  constructor
  case plain => rcases isBody with isBody | isBody <;> simp [isBody]
  case read =>
      intro rest
      have same := read rest
      rcases isBody with isBody | isBody
      all_goals
        rw [isBody, List.cons_append] at same ⊢
        rw [readScalar, same]
        rfl

end CourseAdvisor.Toml
