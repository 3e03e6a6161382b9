/-
This file proves what readers make of scalars and lists, whatever follows them.
-/

import Mathlib.Data.List.Forall2
import CourseAdvisor.Proofs.Json.Tokens
import CourseAdvisor.Proofs.Json.Yielding

namespace CourseAdvisor.Json

variable {α β : Type}

/-- A reader reads these tokens as the value and leaves what follows them. -/
def Reads (reader : Reader α) (tokens : List Token) (value : α) : Prop :=
  ∀ rest, reader (Tape.push tokens rest) = .ok (value, rest)

theorem Reads.text (content : String) : Reads readText (text content).tokens content :=
  fun _ => rfl

theorem Reads.boolean (value : Bool) : Reads readBoolean (boolean value).tokens value :=
  fun _ => rfl

theorem Reads.mapped (convert : α → β) {reader : Reader α} {tokens : List Token} {value : α}
    (reads : Reads reader tokens value) :
    Reads (readMapped convert reader) tokens (convert value) := by
  intro rest
  rw [readMapped, reads rest]
  rfl

/-- A value that does not start with null is there. -/
theorem Reads.optional {reader : Reader α} {tokens : List Token} {value : α}
    (reads : Reads reader tokens value) (present : ∃ head ∈ tokens.head?, head ≠ .null) :
    Reads (readOptional reader) tokens (some value) := by
  intro rest
  obtain ⟨head, isHead, notNull⟩ := present
  obtain ⟨others, rfl⟩ := List.head?_eq_some_iff.mp isHead
  have read := reads rest
  rw [Tape.push_cons] at read ⊢
  unfold readOptional
  split
  case h_1 same => exact absurd (Tape.token.inj same).1 notNull
  case h_2 => simp [read, bind, Except.bind, pure, Except.pure]

/-- The items are read one after the other up to the closing bracket. -/
theorem readItems_reads {reader : Reader α} {items : List (List Token)} {values : List α}
    (reads : List.Forall₂ (Reads reader) items values) (nonempty : items ≠ []) {fuel : Nat}
    (enough : items.length ≤ fuel) (rest : Tape) :
    readItems reader fuel (Tape.push (listTokens items) rest) = .ok (values, rest) := by
  induction reads generalizing fuel with
  | nil => exact absurd rfl nonempty
  | @cons item value items values first others ih =>
      cases fuel with
      | zero => simp at enough
      | succ fuel =>
          cases others with
          | nil => simp [listTokens, readItems, first _, bind, Except.bind, pure, Except.pure]
          | cons second further =>
              have left := ih (List.cons_ne_nil _ _) (Nat.le_of_succ_le_succ enough)
              simp [listTokens, readItems, first _, bind, Except.bind, pure, Except.pure, left]

/-- A list that does not close at once is read item by item. -/
theorem readList_open {reader : Reader α} {rest : Tape}
    (unclosed : ∀ left, rest ≠ .token .closeList left) :
    readList reader (.token .openList rest) = readItems reader (rest.length + 1) rest := by
  unfold readList
  split
  case h_1 same => exact absurd (Tape.token.inj same).2 (unclosed _)
  case h_2 same => rw [(Tape.token.inj same).2]
  case h_3 unopened => exact absurd rfl (unopened _)

/-- A list reads as the values that its items read as. -/
theorem Reads.list {reader : Reader α} {items : List (List Token)} {values : List α}
    (reads : List.Forall₂ (Reads reader) items values)
    (started : ∀ item ∈ items.head?, ∃ head ∈ item.head?, head ≠ .closeList) :
    Reads (readList reader) (.openList :: listTokens items) values := by
  intro rest
  cases reads with
  | nil => rfl
  | @cons item value items values first others =>
      obtain ⟨head, isHead, notClose⟩ := started item rfl
      obtain ⟨left, same⟩ := List.head?_eq_some_iff.mp (listTokens_head isHead items)
      have unclosed (after : Tape) :
          Tape.push (listTokens (item :: items)) rest ≠ .token .closeList after := by
        rw [same, Tape.push_cons]
        intro closed
        exact notClose (Tape.token.inj closed).1
      rw [Tape.push_cons, readList_open unclosed]
      apply readItems_reads (.cons first others) (List.cons_ne_nil item items)
      have longer := listTokens_length (item :: items)
      rw [Tape.push_length]
      omega

/-- A list is read as the values that it is written from, when each of them is. -/
theorem Reads.written {reader : Reader α} {write : α → Json} {values : List α}
    (reads : ∀ value ∈ values, Reads reader (write value).tokens value) :
    Reads (readList reader) (Json.list (values.map write)).tokens values := by
  rw [tokens, tokensOfItems_map, List.map_map]
  apply Reads.list
  · rw [List.forall₂_map_left_iff, List.forall₂_same]
    exact reads
  · intro item isFirst
    obtain ⟨value, _, rfl⟩ := List.mem_map.mp (List.mem_of_mem_head? isFirst)
    exact tokens_head (write value)

/-- A text whose only value is read is decoded. -/
theorem Reads.decoded {reader : Reader α} {value : Json} {result : α}
    (reads : Reads reader value.tokens result) :
    decode reader value.compactText = .ok result := by
  rw [decode_eq_ok, scan_compactText, reads]

/-- A number is read when its own text is decoded. -/
theorem Reads.number {value result : Double}
    (decoded : decode readNumber (value.text .interchange) = .ok result) :
    Reads readNumber (number value).tokens result := by
  intro rest
  have own : value.text .interchange = (Json.number value).compactText := rfl
  have single : (Json.number value).tokens = [numeralToken (value.written .interchange)] := rfl
  rw [own, decode_eq_ok, scan_compactText, single] at decoded
  rw [single]
  rcases numeralToken_cases (value.written .interchange) with ⟨numeral, same⟩ | same
  · rw [same, Tape.push_cons, Tape.push_nil, readNumber] at decoded ⊢
    cases known : numeral.value? with
    | none =>
        rw [known] at decoded
        cases decoded
    | some found =>
        rw [known] at decoded
        cases decoded
        rfl
  · rw [same] at decoded
    cases decoded

end CourseAdvisor.Json
