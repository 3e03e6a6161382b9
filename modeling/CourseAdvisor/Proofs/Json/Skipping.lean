/-
This file proves that every grammatical value is skipped as a whole.
-/

import Mathlib.Tactic.Choose
import CourseAdvisor.Json.Ignored
import CourseAdvisor.Proofs.Json.GrammarScanning

namespace CourseAdvisor.Json

/-- Where a value may start, skipping passes over these tokens and awaits a separator. -/
def Passes (tokens : List Token) : Prop :=
  ∀ ⦃awaited⦄, awaited.isValue = true → ∀ nests rest,
    skipFrom awaited nests (Tape.push tokens rest) = skipFrom .separator nests rest

/-- Skipping goes on where more is awaited. -/
theorem skipFrom_step {awaited next : Awaited} {nests inner : List Nest} {head : Token}
    (unfinished : awaited = .separator → nests ≠ [])
    (advanced : awaited.advance nests head = some (next, inner)) (rest : Tape) :
    skipFrom awaited nests (.token head rest) = skipFrom next inner rest := by
  rw [skipFrom, if_neg fun finished => unfinished finished.1 finished.2, advanced]

/-- A value that is complete is left behind. -/
theorem skipFrom_done (rest : Tape) : skipFrom .separator [] rest = .ok rest := by
  cases rest <;> simp [skipFrom]

theorem Awaited.not_separator {awaited : Awaited} (isValue : awaited.isValue = true)
    (nests : List Nest) : awaited = .separator → nests ≠ [] := by
  rintro rfl
  cases isValue

/-- A scalar holds no other values. -/
def Token.isScalar : Token → Bool
  | .null | .boolean _ | .number _ | .text _ => true
  | _ => false

/-- A scalar is a value of its own. -/
theorem Passes.scalar {head : Token} (isScalar : head.isScalar = true) : Passes [head] := by
  intro awaited isValue nests rest
  have advanced : awaited.advance nests head = some (.separator, nests) := by
    cases head with
    | null | boolean | number | text => simp [Awaited.advance, isValue]
    | openList | closeList | openObject | closeObject | comma | colon => cases isScalar
  exact skipFrom_step (awaited.not_separator isValue nests) advanced rest

/-- Parts that are skipped one by one are skipped as a whole. -/
theorem skipFrom_parts {nest : Nest} {nests : List Nest} {first next : Awaited}
    {starts : Awaited → Bool} {parts : List (List Token)}
    (skipped : ∀ part ∈ parts, ∀ awaited, starts awaited = true → ∀ rest,
      skipFrom awaited (nest :: nests) (Tape.push part rest) =
        skipFrom .separator (nest :: nests) rest)
    (comma : Awaited.advance .separator (nest :: nests) .comma = some (next, nest :: nests))
    (nonempty : parts ≠ []) (isFirst : starts first = true) (isNext : starts next = true)
    (rest : Tape) :
    skipFrom first (nest :: nests) (Tape.push ([.comma].intercalate parts) rest) =
      skipFrom .separator (nest :: nests) rest := by
  induction parts generalizing first with
  | nil => exact absurd rfl nonempty
  | cons part parts ih =>
      have taken := skipped part List.mem_cons_self first isFirst
      cases parts with
      | nil => simpa using taken rest
      | cons second further =>
          have left := ih (fun other member => skipped other (List.mem_cons_of_mem part member))
            (List.cons_ne_nil second further) isNext
          rw [List.intercalate_cons_cons, Tape.push_append, Tape.push_append, taken,
            Tape.push_cons, Tape.push_nil,
            skipFrom_step (fun _ => List.cons_ne_nil nest nests) comma, left]

theorem Passes.list {items : List (List Token)} (passes : ∀ item ∈ items, Passes item) :
    Passes (.openList :: ([.comma].intercalate items ++ [.closeList])) := by
  intro awaited isValue nests rest
  have opened : awaited.advance nests .openList = some (.itemOrClose, .list :: nests) := by
    simp [Awaited.advance, isValue]
  simp only [Tape.push_cons, Tape.push_append, Tape.push_nil]
  rw [skipFrom_step (awaited.not_separator isValue nests) opened]
  cases items with
  | nil => exact skipFrom_step Awaited.noConfusion rfl rest
  | cons item items =>
      have inner (after : Tape) : skipFrom .itemOrClose (.list :: nests)
          (Tape.push ([.comma].intercalate (item :: items)) after) =
            skipFrom .separator (.list :: nests) after :=
        skipFrom_parts (fun part member _ ready => passes part member ready (.list :: nests)) rfl
          (List.cons_ne_nil item items) rfl rfl after
      rw [inner]
      exact skipFrom_step (fun _ => List.cons_ne_nil .list nests) rfl rest

/-- An object is skipped when the value of each of its entries is. -/
theorem Passes.object {entries : List (Option String × List Token)}
    (passes : ∀ entry ∈ entries, Passes entry.2) :
    Passes (.openObject ::
      ([.comma].intercalate (entries.map fun entry => .text entry.1 :: .colon :: entry.2) ++
        [.closeObject])) := by
  intro awaited isValue nests rest
  have opened : awaited.advance nests .openObject = some (.keyOrClose, .object :: nests) := by
    simp [Awaited.advance, isValue]
  simp only [Tape.push_cons, Tape.push_append, Tape.push_nil]
  rw [skipFrom_step (awaited.not_separator isValue nests) opened]
  cases entries with
  | nil => exact skipFrom_step Awaited.noConfusion rfl rest
  | cons entry entries =>
      have skipped : ∀ part ∈ (entry :: entries).map fun entry =>
          Token.text entry.1 :: .colon :: entry.2,
          ∀ awaited : Awaited, awaited.isKey = true → ∀ rest,
            skipFrom awaited (.object :: nests) (Tape.push part rest) =
              skipFrom .separator (.object :: nests) rest := by
        intro part member awaited isKey rest
        obtain ⟨given, isGiven, rfl⟩ := List.mem_map.mp member
        have key : awaited.advance (.object :: nests) (.text given.1) =
            some (.colon, .object :: nests) := by
          cases awaited <;> first | rfl | cases isKey
        rw [Tape.push_cons, Tape.push_cons,
          skipFrom_step (fun _ => List.cons_ne_nil .object nests) key,
          skipFrom_step (fun _ => List.cons_ne_nil .object nests) rfl]
        exact passes given isGiven rfl _ _
      have inner (after : Tape) : skipFrom .keyOrClose (.object :: nests)
          (Tape.push ([.comma].intercalate ((entry :: entries).map fun entry =>
            .text entry.1 :: .colon :: entry.2)) after) =
            skipFrom .separator (.object :: nests) after :=
        skipFrom_parts skipped rfl (List.cons_ne_nil _ _) rfl rfl after
      rw [inner]
      exact skipFrom_step (fun _ => List.cons_ne_nil .object nests) rfl rest

/-- These are the tokens after the opening brace of an object. A key may name half a character. -/
def entryTokens (entries : List (Option String × List Token)) : List Token :=
  [.comma].intercalate (entries.map fun entry => .text entry.1 :: .colon :: entry.2) ++
    [.closeObject]

/-- The tokens of a value are a scalar, or they are nested in brackets that match. -/
inductive Shaped : List Token → Prop
  | scalar {head : Token} (isScalar : head.isScalar = true) : Shaped [head]
  | list {items : List (List Token)} (shaped : ∀ item ∈ items, Shaped item) :
      Shaped (.openList :: listTokens items)
  | object {entries : List (Option String × List Token)}
      (shaped : ∀ entry ∈ entries, Shaped entry.2) : Shaped (.openObject :: entryTokens entries)

theorem Shaped.passes {tokens : List Token} (shaped : Shaped tokens) : Passes tokens := by
  induction shaped with
  | scalar isScalar => exact .scalar isScalar
  | list _ ih =>
      rw [listTokens_eq]
      exact .list ih
  | object _ ih => exact .object ih

theorem numeralToken_isScalar (text : List Char) : (numeralToken text).isScalar = true := by
  obtain ⟨numeral, same⟩ | same := numeralToken_cases text <;> rw [same] <;> rfl

/-- A value is scanned as the tokens of its lexemes, which are nested as the value is. -/
theorem IsValue.scanned {lexemes : List (List Char)} {text : List Char}
    (isValue : IsValue lexemes text) :
    Scans text (lexemes.map lexemeToken) ∧ Shaped (lexemes.map lexemeToken) := by
  have scalar {text : List Char} {token : Token} (scans : Scans text [token])
      (isScalar : token.isScalar = true) :
      Scans text ([text].map lexemeToken) ∧ Shaped ([text].map lexemeToken) := by
    rw [List.map_singleton, scans.lexeme]
    exact ⟨scans, .scalar isScalar⟩
  induction isValue with
  | null | yes | no => exact scalar (.single fun _ _ => rfl) rfl
  | number isNumber => exact scalar isNumber.scans (numeralToken_isScalar _)
  | quoted isQuoted =>
      obtain ⟨content, scans⟩ := isQuoted.scans
      exact scalar scans rfl
  | @list blanks items areBlanks _ ih =>
      have scanned : List.Forall₂ Scans (items.map fun item => item.1.text)
          (items.map fun item => item.2.map lexemeToken) := by
        rw [List.forall₂_map_left_iff, List.forall₂_map_right_iff, List.forall₂_same]
        exact fun item member => (ih item member).1.padded
      have shaped : Shaped (.openList :: listTokens
          (items.map fun item => item.2.map lexemeToken)) := by
        apply Shaped.list
        rw [List.forall_mem_map]
        exact fun item member => (ih item member).2
      rw [listTokens_eq] at shaped
      rw [enclosedLexemes, List.map_cons, List.map_append, map_intercalate, List.map_map]
      exact ⟨.enclosed (fun _ => rfl) (fun _ => rfl) (by simp) areBlanks scanned, shaped⟩
  | @object blanks entries areBlanks keys _ ih =>
      choose! contents scans using fun entry member => (keys entry member).scans
      have tokens : (entries.map fun entry => entry.1.key.core :: [':'] :: entry.2).map
          (List.map lexemeToken) =
            (entries.map fun entry => (contents entry, entry.2.map lexemeToken)).map
              fun entry => .text entry.1 :: .colon :: entry.2 := by
        rw [List.map_map, List.map_map]
        apply List.map_congr_left
        intro entry member
        have key := (scans entry member).lexeme
        simp only [Function.comp_apply, List.map_cons, key]
        rfl
      have scanned : List.Forall₂ Scans (entries.map fun entry => entry.1.text)
          ((entries.map fun entry => (contents entry, entry.2.map lexemeToken)).map
            fun entry => .text entry.1 :: .colon :: entry.2) := by
        rw [List.map_map, List.forall₂_map_left_iff, List.forall₂_map_right_iff,
          List.forall₂_same]
        exact fun entry member => .entry (scans entry member) (ih entry member).1
      have shaped : Shaped (.openObject ::
          entryTokens (entries.map fun entry => (contents entry, entry.2.map lexemeToken))) := by
        apply Shaped.object
        rw [List.forall_mem_map]
        exact fun entry member => (ih entry member).2
      rw [enclosedLexemes, List.map_cons, List.map_append, map_intercalate, tokens]
      exact ⟨.enclosed (fun _ => rfl) (fun _ => rfl) (by simp) areBlanks scanned, shaped⟩

end CourseAdvisor.Json
