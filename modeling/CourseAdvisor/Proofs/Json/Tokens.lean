/-
This file proves that compact text is scanned as the tokens of the value that it holds.
-/

import CourseAdvisor.Proofs.Json.QuotedText
import CourseAdvisor.Proofs.Json.Scanning
import CourseAdvisor.Proofs.Json.WrittenNumbers

namespace CourseAdvisor.Json

/-- These tokens come before the rest of a tape. -/
def Tape.push (tokens : List Token) (rest : Tape) : Tape := tokens.foldr .token rest

namespace Tape

@[simp] theorem push_nil (rest : Tape) : push [] rest = rest := rfl

@[simp] theorem push_cons (head : Token) (tokens : List Token) (rest : Tape) :
    push (head :: tokens) rest = .token head (push tokens rest) := rfl

@[simp] theorem push_append (first second : List Token) (rest : Tape) :
    push (first ++ second) rest = push first (push second rest) :=
  List.foldr_append

theorem push_length (tokens : List Token) (rest : Tape) :
    (push tokens rest).length = tokens.length + rest.length := by
  induction tokens with
  | nil => simp
  | cons head tokens ih =>
      rw [push_cons, length, ih, List.length_cons]
      omega

theorem push_inj {first second : List Token}
    (same : push first .finished = push second .finished) : first = second := by
  induction first generalizing second with
  | nil =>
      cases second with
      | nil => rfl
      | cons => cases same
  | cons head first ih =>
      cases second with
      | nil => cases same
      | cons other second =>
          obtain ⟨rfl, rest⟩ := Tape.token.inj same
          rw [ih rest]

end Tape

/-- These are the tokens after the opening bracket of a list. -/
def listTokens : List (List Token) → List Token
  | [] => [.closeList]
  | [item] => item ++ [.closeList]
  | item :: rest => item ++ .comma :: listTokens rest

/-- These are the tokens after the opening brace of an object. -/
def objectTokens : List (String × List Token) → List Token
  | [] => [.closeObject]
  | [(key, value)] => .text (some key) :: .colon :: value ++ [.closeObject]
  | (key, value) :: rest => .text (some key) :: .colon :: value ++ .comma :: objectTokens rest

/-- Every item takes at least the token that ends it. -/
theorem listTokens_length (items : List (List Token)) :
    items.length ≤ (listTokens items).length := by
  fun_induction listTokens items with
  | case1 => simp
  | case2 item => simp
  | case3 item rest several ih =>
      simp only [List.length_cons, List.length_append]
      omega

theorem listTokens_head {item : List Token} {head : Token} (isHead : head ∈ item.head?)
    (items : List (List Token)) : head ∈ (listTokens (item :: items)).head? := by
  obtain ⟨others, rfl⟩ := List.head?_eq_some_iff.mp isHead
  cases items <;> rfl

/-- Every member takes at least the token that ends it. -/
theorem objectTokens_length (members : List (String × List Token)) :
    members.length ≤ (objectTokens members).length := by
  fun_induction objectTokens members with
  | case1 => simp
  | case2 key value => simp
  | case3 key value rest several ih =>
      simp only [List.length_cons, List.length_append]
      omega

theorem listTokens_eq (items : List (List Token)) :
    listTokens items = [.comma].intercalate items ++ [.closeList] := by
  fun_induction listTokens items with
  | case1 => rfl
  | case2 item => simp
  | case3 item rest several ih =>
      obtain ⟨next, others, rfl⟩ := List.exists_cons_of_ne_nil several
      rw [ih, List.intercalate_cons_cons]
      simp

theorem objectTokens_eq (members : List (String × List Token)) :
    objectTokens members =
      [.comma].intercalate (members.map fun member =>
        .text (some member.1) :: .colon :: member.2) ++ [.closeObject] := by
  fun_induction objectTokens members with
  | case1 => rfl
  | case2 key value => simp
  | case3 key value rest several ih =>
      obtain ⟨next, others, rfl⟩ := List.exists_cons_of_ne_nil several
      simp only [List.map_cons] at ih ⊢
      rw [ih, List.intercalate_cons_cons]
      simp

/-- This is the token of a numeral; what is no number is written as null. -/
def numeralToken (text : List Char) : Token :=
  match scanOne text with
  | .token (.number numeral) _ => .number numeral
  | _ => .null

/-- This is the token of a value that holds no other values. -/
def scalarToken : Json → Token
  | .boolean value => .boolean value
  | .integer value => numeralToken value.repr.toList
  | .number value => numeralToken (value.written .interchange)
  | .text content => .text (some content)
  | _ => .null

mutual

/-- These are the tokens of a value. -/
def tokens : Json → List Token
  | .list items => .openList :: listTokens (tokensOfItems items)
  | .object members => .openObject :: objectTokens (tokensOfMembers members)
  | value => [value.scalarToken]

def tokensOfItems : List Json → List (List Token)
  | [] => []
  | item :: rest => item.tokens :: tokensOfItems rest

def tokensOfMembers : List (String × Json) → List (String × List Token)
  | [] => []
  | (key, value) :: rest => (key, value.tokens) :: tokensOfMembers rest

end

theorem scanFrom_digit {char : Char} (digit : char.isDigit = true) (rest : List Char) :
    scanFrom char rest = .ofNumeral (scanUnsigned false (char :: rest)) := by
  unfold scanFrom
  split
  case h_12 => rw [if_pos digit]
  all_goals exact absurd digit (by decide)

/-- A numeral starts with a digit. -/
theorem IsNumeral.head {text : List Char} (isNumeral : IsNumeral text) :
    ∃ char rest, text = char :: rest ∧ char.isDigit = true := by
  obtain ⟨numeral, scanned⟩ := isNumeral false
  have alone := scanned [] trivial
  rw [List.append_nil] at alone
  cases text with
  | nil => cases alone
  | cons char rest =>
      refine ⟨char, rest, rfl, ?_⟩
      by_contra noDigit
      rw [scanUnsigned, List.takeWhile_cons_of_neg noDigit] at alone
      cases alone

/-- A digit is no blank. -/
theorem isBlank_digit {char : Char} (digit : char.isDigit = true) : isBlank char = false := by
  by_contra blank
  rw [Bool.not_eq_false, isBlank] at blank
  simp only [Bool.or_eq_true, beq_iff_eq] at blank
  rcases blank with ((rfl | rfl) | rfl) | rfl <;> exact absurd digit (by decide)

/-- A numeral with or without a sign is one token, and what follows it is untouched. -/
theorem scanOne_numeral {text : List Char} (isNumeral : IsNumeral text) (negative : Bool)
    {rest : List Char} (delimited : Delimited rest) :
    scanOne ((if negative then '-' :: text else text) ++ rest) =
      .token (numeralToken (if negative then '-' :: text else text)) rest := by
  obtain ⟨char, others, same, digit⟩ := isNumeral.head
  obtain ⟨numeral, scanned⟩ := isNumeral negative
  have token (after : List Char) (stop : Delimited after) :
      scanOne ((if negative then '-' :: text else text) ++ after) =
        .token (.number numeral) after := by
    cases negative with
    | true => exact congrArg Scan.ofNumeral (scanned after stop)
    | false =>
        have unsigned := scanned after stop
        rw [same, List.cons_append] at unsigned
        rw [if_neg Bool.false_ne_true, same, List.cons_append, scanOne,
          List.dropWhile_cons_of_neg (by simp [isBlank_digit digit])]
        exact (scanFrom_digit digit _).trans (congrArg Scan.ofNumeral unsigned)
  have alone := token [] trivial
  rw [List.append_nil] at alone
  rw [token rest delimited, numeralToken, alone]

theorem scanOne_integer (value : Int) {rest : List Char} (delimited : Delimited rest) :
    scanOne (value.repr.toList ++ rest) = .token (numeralToken value.repr.toList) rest := by
  have numeral (magnitude : Nat) : IsNumeral magnitude.repr.toList := by
    rw [Nat.toList_repr]
    exact .whole (toDigits_whole magnitude)
  cases value with
  | ofNat magnitude => exact scanOne_numeral (numeral magnitude) false delimited
  | negSucc below =>
      have written : (Int.negSucc below).repr.toList = '-' :: (below + 1).repr.toList := by
        simp [Int.repr]
      rw [written]
      exact scanOne_numeral (numeral (below + 1)) true delimited

theorem scanOne_number (value : Double) {rest : List Char} (delimited : Delimited rest) :
    scanOne (value.written .interchange ++ rest) =
      .token (numeralToken (value.written .interchange)) rest := by
  cases value with
  | finite negative magnitude =>
      exact scanOne_numeral (magnitude.written_numeral .interchange) negative delimited
  | notNumber => rfl
  | infinite negative => cases negative <;> rfl

/-- A scalar is one token, and what follows it is untouched. -/
theorem scanOne_scalar (value : Json) {rest : List Char} (delimited : Delimited rest) :
    scanOne (value.scalar ++ rest) = .token value.scalarToken rest := by
  cases value with
  | boolean value => cases value <;> rfl
  | integer value => exact scanOne_integer value delimited
  | number value => exact scanOne_number value delimited
  | text content => exact scanOne_quoted content rest
  | null => rfl
  | list items => rfl
  | object members => rfl

/-- Punctuation is a token of its own. -/
theorem delimited_punctuation {char : Char} (isPunctuation : char ∈ [',', ']', '\x7d'])
    (rest : List Char) : Delimited (char :: rest) := by
  simp only [List.mem_cons, List.not_mem_nil, or_false] at isPunctuation
  rcases isPunctuation with rfl | rfl | rfl <;> exact ⟨by decide, by decide, by decide, by decide⟩

/-- The tape of a scalar is its token and the tape of what follows. -/
theorem scan_scalar (value : Json) {rest : List Char} (delimited : Delimited rest) :
    scan (value.scalar ++ rest) = (scan rest).push [value.scalarToken] :=
  scan_token (scanOne_scalar value delimited)

/-- The tape of a key is its token, a colon and the tape of what follows. -/
theorem scan_key (key : String) (rest : List Char) :
    scan (quoted key ++ ':' :: rest) = (scan rest).push [.text (some key), .colon] := by
  have colon : scan (':' :: rest) = .token .colon (scan rest) := scan_token rfl
  rw [scan_token (scanOne_quoted key _), colon]
  rfl

mutual

/-- The tape of a compact text is the tokens of its value and the tape of what follows. -/
theorem scan_compact (value : Json) {rest : List Char} (delimited : Delimited rest) :
    scan (value.compact ++ rest) = (scan rest).push value.tokens := by
  match value with
  | .list items =>
      have opened : scan ('[' :: (compactItems items ++ rest)) =
          .token .openList (scan (compactItems items ++ rest)) := scan_token rfl
      rw [compact, List.cons_append, opened, scan_compactItems items rest]
      rfl
  | .object members =>
      have opened : scan ('\x7b' :: (compactMembers members ++ rest)) =
          .token .openObject (scan (compactMembers members ++ rest)) := scan_token rfl
      rw [compact, List.cons_append, opened, scan_compactMembers members rest]
      rfl
  | .null => exact scan_scalar .null delimited
  | .boolean value => exact scan_scalar (.boolean value) delimited
  | .integer value => exact scan_scalar (.integer value) delimited
  | .number value => exact scan_scalar (.number value) delimited
  | .text content => exact scan_scalar (.text content) delimited

theorem scan_compactItems (items : List Json) (rest : List Char) :
    scan (compactItems items ++ rest) = (scan rest).push (listTokens (tokensOfItems items)) := by
  match items with
  | [] => exact scan_token rfl
  | [item] =>
      have closed : scan (']' :: rest) = .token .closeList (scan rest) := scan_token rfl
      rw [compactItems, List.append_assoc, List.singleton_append,
        scan_compact item (delimited_punctuation (by simp) rest), closed]
      simp [tokensOfItems, listTokens]
  | item :: next :: others =>
      have further : scan (',' :: (compactItems (next :: others) ++ rest)) =
          .token .comma (scan (compactItems (next :: others) ++ rest)) := scan_token rfl
      rw [compactItems, List.append_assoc, List.cons_append,
        scan_compact item (delimited_punctuation (by simp) _), further,
        scan_compactItems (next :: others) rest]
      · simp [tokensOfItems, listTokens]
      · exact List.cons_ne_nil next others

theorem scan_compactMembers (members : List (String × Json)) (rest : List Char) :
    scan (compactMembers members ++ rest) =
      (scan rest).push (objectTokens (tokensOfMembers members)) := by
  match members with
  | [] => exact scan_token rfl
  | [(key, value)] =>
      have closed : scan ('\x7d' :: rest) = .token .closeObject (scan rest) := scan_token rfl
      rw [compactMembers, List.append_assoc, List.append_assoc, List.cons_append,
        List.singleton_append, scan_key, scan_compact value (delimited_punctuation (by simp) rest),
        closed]
      simp [tokensOfMembers, objectTokens]
  | (key, value) :: next :: others =>
      have further : scan (',' :: (compactMembers (next :: others) ++ rest)) =
          .token .comma (scan (compactMembers (next :: others) ++ rest)) := scan_token rfl
      rw [compactMembers, List.append_assoc, List.cons_append, List.append_assoc, List.cons_append,
        scan_key, scan_compact value (delimited_punctuation (by simp) _), further,
        scan_compactMembers (next :: others) rest]
      · simp [tokensOfMembers, objectTokens]
      · exact List.cons_ne_nil next others

end

/-- The tape of a whole compact text holds nothing but its value. -/
theorem scan_compactText (value : Json) :
    scan value.compactText.toList = Tape.push value.tokens .finished := by
  have scanned := scan_compact value (show Delimited [] from trivial)
  rw [List.append_nil, scan_nil] at scanned
  rw [compactText, String.toList_ofList, scanned]

theorem tokensOfItems_map (items : List Json) : tokensOfItems items = items.map tokens := by
  induction items with
  | nil => rfl
  | cons item items ih => rw [tokensOfItems, ih, List.map_cons]

theorem tokensOfMembers_map (members : List (String × Json)) :
    tokensOfMembers members = members.map fun member => (member.1, member.2.tokens) := by
  induction members with
  | nil => rfl
  | cons member members ih => rw [tokensOfMembers, ih, List.map_cons]

theorem tokensOfMembers_keys (members : List (String × Json)) :
    (tokensOfMembers members).map Prod.fst = members.map Prod.fst := by
  rw [tokensOfMembers_map, List.map_map]
  rfl

/-- A numeral token is a number or null. -/
theorem numeralToken_cases (text : List Char) :
    (∃ numeral, numeralToken text = .number numeral) ∨ numeralToken text = .null := by
  unfold numeralToken
  split
  · exact .inl ⟨_, rfl⟩
  · exact .inr rfl

/-- No value starts with a closing bracket. -/
theorem tokens_head (value : Json) : ∃ head ∈ value.tokens.head?, head ≠ .closeList := by
  have numeral (text : List Char) : numeralToken text ≠ .closeList := by
    rcases numeralToken_cases text with ⟨numeral, same⟩ | same <;> simp [same]
  cases value with
  | integer value => exact ⟨_, rfl, numeral _⟩
  | number value => exact ⟨_, rfl, numeral _⟩
  | null | boolean | text | list | object => exact ⟨_, rfl, Token.noConfusion⟩

end CourseAdvisor.Json
