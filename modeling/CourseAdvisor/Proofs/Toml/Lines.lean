/-
This file proves that a document is read line by line as the statements that its lines hold.
-/

import Mathlib.Data.List.TakeWhile
import CourseAdvisor.Toml.Reader

namespace CourseAdvisor.Toml

/-- A text denotes a value when it is read as that value up to the end of its line. -/
structure Denotes (text : List Char) (value : Toml) : Prop where
  plain : ∀ char ∈ text.head?, char ∉ [' ', '\t', '[', '\x7b']
  read : ∀ rest, readScalar (text ++ '\n' :: rest) = some (value, '\n' :: rest)

theorem forall_mem_head? {holds : Char → Prop} {char : Char} (first : holds char)
    (rest : List Char) : ∀ head ∈ (char :: rest).head?, holds head := by
  intro head same
  rw [List.head?_cons, Option.mem_some_iff] at same
  exact same ▸ first

/-- A bare key stands without quotes. -/
structure IsBareKey (key : String) : Prop where
  nonempty : key.toList ≠ []
  all : key.toList.all isBare = true

/-- A bare key does not start with a character that it cannot hold. -/
theorem IsBareKey.ne_cons {key : String} (bare : IsBareKey key) {char : Char}
    (notBare : isBare char = false) {rest others : List Char} :
    key.toList ++ rest ≠ char :: others := by
  obtain ⟨first, tail, isKey⟩ := List.exists_cons_of_ne_nil bare.nonempty
  have isBareFirst := List.all_eq_true.mp bare.all first (isKey ▸ List.mem_cons_self)
  intro same
  rw [isKey, List.cons_append] at same
  rw [(List.cons.inj same).1, notBare] at isBareFirst
  cases isBareFirst

/-- This text does not carry on a bare key. -/
def Unbare (text : List Char) : Prop := ∀ char ∈ text.head?, isBare char = false

theorem Unbare.of_head {char : Char} (notBare : isBare char = false) (rest : List Char) :
    Unbare (char :: rest) := forall_mem_head? notBare rest

theorem skipBlanks_cons {char : Char} (notBlank : isBlank char = false) (rest : List Char) :
    skipBlanks (char :: rest) = char :: rest := by
  rw [skipBlanks, List.dropWhile_cons_of_neg (by simp [notBlank])]

theorem isBlank_of_bare {char : Char} (bare : isBare char = true) : isBlank char = false := by
  rw [isBlank, Bool.or_eq_false_iff, beq_eq_false_iff_ne, beq_eq_false_iff_ne]
  constructor
  · rintro rfl
    exact absurd bare (by decide)
  · rintro rfl
    exact absurd bare (by decide)

/-- A bare key is read whole. -/
theorem readKeyPart_bare {key : String} (bare : IsBareKey key) {rest : List Char}
    (unbare : Unbare rest) : readKeyPart (key.toList ++ rest) = some (key, rest) := by
  have none : rest.takeWhile isBare = [] ∧ rest.dropWhile isBare = rest := by
    cases rest with
    | nil => exact ⟨rfl, rfl⟩
    | cons char rest => simp [unbare char rfl]
  have taken : (key.toList ++ rest).takeWhile isBare = key.toList := by
    rw [List.takeWhile_append_of_pos (List.all_eq_true.mp bare.all), none.1, List.append_nil]
  have left : (key.toList ++ rest).dropWhile isBare = rest := by
    rw [List.dropWhile_append_of_pos (List.all_eq_true.mp bare.all), none.2]
  unfold readKeyPart
  split
  case h_1 same => exact absurd same (bare.ne_cons (by decide))
  case h_2 same => exact absurd same (bare.ne_cons (by decide))
  case h_3 =>
      rw [taken, left]
      split
      case h_1 empty => exact absurd empty bare.nonempty
      case h_2 => rw [String.ofList_toList]

/-- A bare key is a key without a path. -/
theorem readKey_bare {key : String} (bare : IsBareKey key) {rest : List Char}
    (unbare : Unbare rest) (ended : (skipBlanks rest).head? ≠ some '.') :
    readKey (key.toList ++ rest) = some (⟨[], key⟩, skipBlanks rest) := by
  have noBlank : skipBlanks (key.toList ++ rest) = key.toList ++ rest := by
    obtain ⟨first, tail, isKey⟩ := List.exists_cons_of_ne_nil bare.nonempty
    have isBareFirst := List.all_eq_true.mp bare.all
    rw [isKey, List.cons_append]
    exact skipBlanks_cons (isBlank_of_bare (isBareFirst first (isKey ▸ List.mem_cons_self))) _
  have parts : readKeyWithin ((key.toList ++ rest).length + 1) (key.toList ++ rest) =
      some ([key], skipBlanks rest) := by
    rw [readKeyWithin, noBlank, readKeyPart_bare bare unbare, Option.bind_eq_bind, Option.bind_some]
    dsimp only
    split
    case h_1 same =>
        rw [same] at ended
        exact absurd rfl ended
    case h_2 => rfl
  rw [readKey, parts]
  rfl

theorem Denotes.head {text : List Char} {value : Toml} (denotes : Denotes text value)
    {first : Char} {rest others : List Char} (same : text ++ '\n' :: rest = first :: others) :
    first ∉ [' ', '\t', '[', '\x7b'] := by
  cases text with
  | nil =>
      rw [List.nil_append, List.cons.injEq] at same
      rw [← same.1]
      decide
  | cons char text =>
      rw [List.cons_append, List.cons.injEq] at same
      exact same.1 ▸ denotes.plain char rfl

theorem Denotes.skipBlanks {text : List Char} {value : Toml} (denotes : Denotes text value)
    (rest : List Char) : skipBlanks (text ++ '\n' :: rest) = text ++ '\n' :: rest := by
  cases same : text ++ '\n' :: rest with
  | nil => rfl
  | cons first others =>
      apply skipBlanks_cons
      have plain := denotes.head same
      simp only [List.mem_cons, not_or] at plain
      simp [isBlank, plain]

theorem Denotes.readValue {text : List Char} {value : Toml} (denotes : Denotes text value)
    (depth : Nat) (rest : List Char) :
    readValue depth (text ++ '\n' :: rest) = some (value, '\n' :: rest) := by
  cases depth with
  | zero => exact denotes.read rest
  | succ depth =>
      unfold Toml.readValue
      split
      case h_1 same => exact absurd (by decide) (denotes.head same)
      case h_2 same => exact absurd (by decide) (denotes.head same)
      case h_3 => exact denotes.read rest

/-- An assignment ends with its value. -/
theorem readAssignment_bare {key : String} (bare : IsBareKey key) {text : List Char} {value : Toml}
    (denotes : Denotes text value) (depth : Nat) (rest : List Char) :
    readAssignment (readValue depth) (key.toList ++ ' ' :: '=' :: ' ' :: (text ++ '\n' :: rest)) =
      some ((⟨[], key⟩, value), '\n' :: rest) := by
  have equals : Toml.skipBlanks (' ' :: '=' :: ' ' :: (text ++ '\n' :: rest)) =
      '=' :: ' ' :: (text ++ '\n' :: rest) := rfl
  have blank : Toml.skipBlanks (' ' :: (text ++ '\n' :: rest)) = text ++ '\n' :: rest :=
    denotes.skipBlanks rest
  have ended : (Toml.skipBlanks (' ' :: '=' :: ' ' :: (text ++ '\n' :: rest))).head? ≠
      some '.' := by
    rw [equals, List.head?_cons]
    decide
  rw [readAssignment, readKey_bare bare (.of_head (by decide) _) ended, equals,
    Option.bind_eq_bind, Option.bind_some]
  dsimp only
  rw [readChar, if_pos rfl, Option.bind_eq_bind, Option.bind_some]
  dsimp only
  rw [blank, denotes.readValue]
  rfl

/-- A text holds statements when they are read from its lines. -/
def Holds (text : List Char) (statements : List Statement) : Prop :=
  ∀ fuel, text.length < fuel → readStatementsWithin fuel text = some statements

theorem Holds.nil : Holds [] [] := by
  rintro (_ | fuel) enough
  · cases enough
  · rfl

/-- An empty line holds nothing. -/
theorem Holds.empty {rest : List Char} {statements : List Statement}
    (holds : Holds rest statements) : Holds ('\n' :: rest) statements := by
  rintro (_ | fuel) enough
  · cases enough
  · rw [List.length_cons] at enough
    have same := holds fuel (by omega)
    rw [← same]
    rfl

/-- A line with a statement ends with the statement. -/
theorem Holds.line {first : Char} {others rest : List Char} {statement : Statement}
    {statements : List Statement} (starts : first ∉ [' ', '\t', '#', '\n', '\r'])
    (read : readStatement (first :: others) = some (statement, '\n' :: rest))
    (shorter : rest.length ≤ others.length) (holds : Holds rest statements) :
    Holds (first :: others) (statement :: statements) := by
  simp only [List.mem_cons, List.not_mem_nil, or_false, not_or] at starts
  obtain ⟨noSpace, noTab, noComment, noFeed, noReturn⟩ := starts
  have noBlank : skipBlanks (first :: others) = first :: others :=
    skipBlanks_cons (by simp [isBlank, noSpace, noTab]) others
  have noLine : skipLine (first :: others) = none := by
    rw [skipLine, noBlank, skipComment.eq_2 _ (by simp [noComment])]
    simp [readNewline, noFeed, noReturn]
  rintro (_ | fuel) enough
  · cases enough
  · rw [List.length_cons] at enough
    rw [readStatementsWithin, noBlank]
    dsimp only
    rw [noLine]
    dsimp only
    rw [read, Option.bind_eq_bind, Option.bind_some]
    have ended : skipLine ('\n' :: rest) = some rest := rfl
    dsimp only
    rw [ended, Option.bind_eq_bind, Option.bind_some, holds fuel (by omega)]
    rfl

theorem Holds.assignment {key : String} (bare : IsBareKey key) {text rest : List Char}
    {value : Toml} (denotes : Denotes text value) {statements : List Statement}
    (holds : Holds rest statements) :
    Holds (key.toList ++ ' ' :: '=' :: ' ' :: (text ++ '\n' :: rest))
      (.assignment ⟨[], key⟩ value :: statements) := by
  have read := readAssignment_bare bare denotes (depthLimit - 1) rest
  have special : ['[', ' ', '\t', '#', '\n', '\r'].all (!isBare ·) = true := by decide
  cases same : key.toList ++ ' ' :: '=' :: ' ' :: (text ++ '\n' :: rest) with
  | nil => exact absurd (List.append_eq_nil_iff.mp same).1 bare.nonempty
  | cons first others =>
      have plain : first ∉ ['[', ' ', '\t', '#', '\n', '\r'] :=
        fun member => bare.ne_cons (by simpa using List.all_eq_true.mp special first member) same
      rw [List.mem_cons, not_or] at plain
      have length := congrArg List.length same
      simp only [List.length_append, List.length_cons] at length
      refine Holds.line plain.2 ?_ (by omega) holds
      rw [same] at read
      rw [readStatement.eq_2 _ (fun _ isList => plain.1 (List.cons.inj isList).1), read]
      rfl

theorem Holds.header {key : String} (bare : IsBareKey key) {rest : List Char}
    {statements : List Statement} (holds : Holds rest statements) :
    Holds ('[' :: (key.toList ++ ']' :: '\n' :: rest)) (.header ⟨[], key⟩ :: statements) := by
  have unbare : Unbare (']' :: '\n' :: rest) := .of_head (by decide) _
  have noDouble : ∀ others, key.toList ++ ']' :: '\n' :: rest = '[' :: others → False :=
    fun _ same => bare.ne_cons (by decide) same
  have noBlank : Toml.skipBlanks (']' :: '\n' :: rest) = ']' :: '\n' :: rest := rfl
  have length : rest.length ≤ (key.toList ++ ']' :: '\n' :: rest).length := by
    rw [List.length_append, List.length_cons, List.length_cons]
    omega
  refine Holds.line (by decide) ?_ length holds
  rw [readStatement, readHeader.eq_2 _ noDouble, readKey_bare bare unbare (by simp [noBlank]),
    noBlank]
  rfl

/-- The entries of a document come from the statements that it holds. -/
theorem Holds.entries {text : List Char} {statements : List Statement}
    (holds : Holds text statements) (unmarked : text.head? ≠ some '\ufeff') :
    entries? (String.ofList text) = (Document.ofStatements statements).map Document.entries := by
  have noMark : skipMark text = text := by
    apply skipMark.eq_2
    rintro rest rfl
    exact unmarked rfl
  rw [entries?, String.toList_ofList, noMark, holds _ (Nat.lt_succ_self _), Option.bind_eq_bind,
    Option.bind_some]
  cases Document.ofStatements statements <;> rfl

end CourseAdvisor.Toml
