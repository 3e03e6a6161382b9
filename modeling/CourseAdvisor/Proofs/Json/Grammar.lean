/-
This file defines which texts are JSON values, character by character and without any reader.
-/

import Mathlib.Data.List.Forall2
import CourseAdvisor.Proofs.Json.Numerals

namespace CourseAdvisor.Json

/-- Nothing but blanks stands in this text. -/
def IsBlanks (text : List Char) : Prop := ∀ char ∈ text, char ∈ [' ', '\t', '\n', '\r']

instance (text : List Char) : Decidable (IsBlanks text) :=
  List.decidableBAll (· ∈ [' ', '\t', '\n', '\r']) text

theorem IsBlanks.nil : IsBlanks [] := List.forall_mem_nil _

/-- These are the texts of a number. -/
inductive IsNumber : List Char → Prop
  | parts {sign whole fraction exponent : List Char} (isSign : sign ∈ [[], ['-']])
      (isWhole : IsWhole whole) (isFraction : IsFraction fraction)
      (isExponent : IsExponent exponent) : IsNumber (sign ++ (whole ++ fraction ++ exponent))

/-- A hex digit may be written in either letter case. -/
def IsHexDigit (char : Char) (value : Nat) : Prop :=
  value < 16 ∧ (char = Nat.digitChar value ∨ char = (Nat.digitChar value).toUpper)

/-- An escape names a code unit with four hex digits. -/
inductive IsUnit : Nat → List Char → Prop
  | digits {first second third fourth : Char} {top upper lower last : Nat}
      (isTop : IsHexDigit first top) (isUpper : IsHexDigit second upper)
      (isLower : IsHexDigit third lower) (isLast : IsHexDigit fourth last) :
      IsUnit (((top * 16 + upper) * 16 + lower) * 16 + last)
        ['\\', 'u', first, second, third, fourth]

/-- These letters stand for characters after a backslash. -/
def letterEscapes : List (Char × Char) :=
  [('"', '"'), ('\\', '\\'), ('/', '/'), ('b', '\x08'), ('f', '\x0c'), ('n', '\n'), ('r', '\r'),
    ('t', '\t')]

/-- Quotes, backslashes and control characters cannot stand for themselves. -/
def IsPlain (char : Char) : Prop := char ≠ '"' ∧ char ≠ '\\' ∧ 32 ≤ char.toNat

instance : DecidablePred IsPlain := fun char =>
  inferInstanceAs (Decidable (char ≠ '"' ∧ char ≠ '\\' ∧ 32 ≤ char.toNat))

/-- All of these characters stand for themselves. -/
def ArePlain (chars : List Char) : Prop := ∀ char ∈ chars, IsPlain char

instance (chars : List Char) : Decidable (ArePlain chars) := List.decidableBAll IsPlain chars

/-- These are the pieces that quoted text is made of. -/
inductive IsPiece : List Char → Prop
  | plain {char : Char} (isPlain : IsPlain char) : IsPiece [char]
  | letter {letter char : Char} (escape : (letter, char) ∈ letterEscapes) : IsPiece ['\\', letter]
  | unit {code : Nat} {text : List Char} (isUnit : IsUnit code text) : IsPiece text

/-- Quoted text may escape halves of characters. -/
inductive IsQuoted : List Char → Prop
  | pieces {pieces : List (List Char)} (arePieces : ∀ piece ∈ pieces, IsPiece piece) :
      IsQuoted ('"' :: pieces.flatten ++ ['"'])

/-- These are the ways to write a character in quoted text. -/
inductive Spells : Char → List Char → Prop
  | plain {char : Char} (isPlain : IsPlain char) : Spells char [char]
  | letter {letter char : Char} (escape : (letter, char) ∈ letterEscapes) :
      Spells char ['\\', letter]
  | unit {char : Char} {text : List Char} (isUnit : IsUnit char.toNat text) : Spells char text
  | pair {char : Char} {high low : Nat} {first second : List Char} (isFirst : IsUnit high first)
      (isSecond : IsUnit low second) (isHigh : 0xd800 ≤ high ∧ high ≤ 0xdbff)
      (isLow : 0xdc00 ≤ low ∧ low ≤ 0xdfff)
      (named : char.toNat = 0x10000 + (high - 0xd800) * 0x400 + (low - 0xdc00)) :
      Spells char (first ++ second)

/-- This quoted text has this content when its escapes are resolved. -/
inductive Quotes : String → List Char → Prop
  | spelled {content : String} {pieces : List (List Char)}
      (spelling : List.Forall₂ Spells content.toList pieces) :
      Quotes content ('"' :: pieces.flatten ++ ['"'])

theorem flatten_singletons (chars : List Char) : (chars.map ([·])).flatten = chars := by
  rw [← List.flatMap_def, List.flatMap_singleton']

/-- Plain characters stand for themselves between quotes. -/
theorem IsQuoted.plain {chars : List Char} (arePlain : ArePlain chars) :
    IsQuoted ('"' :: chars ++ ['"']) := by
  have pieces : ∀ piece ∈ chars.map ([·]), IsPiece piece := by
    intro piece member
    obtain ⟨char, isChar, rfl⟩ := List.mem_map.mp member
    exact .plain (arePlain char isChar)
  have quoted := IsQuoted.pieces pieces
  rwa [flatten_singletons] at quoted

theorem Quotes.plain {content : String} (arePlain : ArePlain content.toList) :
    Quotes content ('"' :: content.toList ++ ['"']) := by
  have spelling : List.Forall₂ Spells content.toList (content.toList.map ([·])) := by
    rw [List.forall₂_map_right_iff, List.forall₂_same]
    exact fun char member => .plain (arePlain char member)
  have quotes := Quotes.spelled spelling
  rwa [flatten_singletons] at quotes

/-- What spells a character is made of pieces: a pair of halves is two of them. -/
theorem Spells.pieces {char : Char} {text : List Char} (spells : Spells char text) :
    ∃ pieces : List (List Char), (∀ piece ∈ pieces, IsPiece piece) ∧ pieces.flatten = text := by
  have single {piece : List Char} (isPiece : IsPiece piece) :
      ∃ pieces : List (List Char), (∀ piece ∈ pieces, IsPiece piece) ∧ pieces.flatten = piece :=
    ⟨[piece], List.forall_mem_singleton.mpr isPiece, by simp⟩
  cases spells with
  | plain isPlain => exact single (.plain isPlain)
  | letter escape => exact single (.letter escape)
  | unit isUnit => exact single (.unit isUnit)
  | @pair _ _ _ first second isFirst isSecond =>
      refine ⟨[first, second], ?_, by simp⟩
      rw [List.forall_mem_cons, List.forall_mem_singleton]
      exact ⟨.unit isFirst, .unit isSecond⟩

/-- Text that quotes a content is quoted. -/
theorem Quotes.isQuoted {content : String} {text : List Char} (quotes : Quotes content text) :
    IsQuoted text := by
  obtain @⟨spellings, spelling⟩ := quotes
  have inner : ∃ pieces : List (List Char), (∀ piece ∈ pieces, IsPiece piece) ∧
      pieces.flatten = spellings.flatten := by
    generalize content.toList = chars at spelling
    induction spelling with
    | nil => exact ⟨[], List.forall_mem_nil _, rfl⟩
    | cons spells _ ih =>
        obtain ⟨first, areFirst, firstText⟩ := spells.pieces
        obtain ⟨others, areOthers, othersText⟩ := ih
        refine ⟨first ++ others, ?_, ?_⟩
        · intro piece isPiece
          exact (List.mem_append.mp isPiece).elim (areFirst piece) (areOthers piece)
        · rw [List.flatten_append, firstText, othersText, List.flatten_cons]
  obtain ⟨pieces, arePieces, same⟩ := inner
  rw [← same]
  exact .pieces arePieces

/-- Blanks may stand around a text. -/
structure Padded where
  before : List Char
  core : List Char
  after : List Char
  blankBefore : IsBlanks before
  blankAfter : IsBlanks after

def Padded.text (padded : Padded) : List Char := padded.before ++ padded.core ++ padded.after

def Padded.bare (core : List Char) : Padded := ⟨[], core, [], .nil, .nil⟩

/-- An entry of an object is a key and a value. -/
structure Entry where
  key : Padded
  value : Padded

def Entry.text (entry : Entry) : List Char := entry.key.text ++ ':' :: entry.value.text

/-- Commas stand between the parts of a list or an object. -/
def enclosed (opening : Char) (blanks : List Char) (parts : List (List Char)) (closing : Char) :
    List Char :=
  opening :: blanks ++ [','].intercalate parts ++ [closing]

/-- These are the lexemes of a list or an object with these parts. -/
def enclosedLexemes (opening : Char) (parts : List (List (List Char))) (closing : Char) :
    List (List Char) :=
  [opening] :: ([[',']].intercalate parts ++ [[closing]])

/-- These texts are values of any depth. The lexemes are what is left without the blanks. -/
inductive IsValue : List (List Char) → List Char → Prop
  | null : IsValue ["null".toList] "null".toList
  | yes : IsValue ["true".toList] "true".toList
  | no : IsValue ["false".toList] "false".toList
  | number {text : List Char} (isNumber : IsNumber text) : IsValue [text] text
  | quoted {text : List Char} (isQuoted : IsQuoted text) : IsValue [text] text
  | list {blanks : List Char} {items : List (Padded × List (List Char))}
      (areBlanks : IsBlanks blanks) (values : ∀ item ∈ items, IsValue item.2 item.1.core) :
      IsValue (enclosedLexemes '[' (items.map Prod.snd) ']')
        (enclosed '[' blanks (items.map fun item => item.1.text) ']')
  | object {blanks : List Char} {entries : List (Entry × List (List Char))}
      (areBlanks : IsBlanks blanks) (keys : ∀ entry ∈ entries, IsQuoted entry.1.key.core)
      (values : ∀ entry ∈ entries, IsValue entry.2 entry.1.value.core) :
      IsValue (enclosedLexemes '\x7b'
          (entries.map fun entry => entry.1.key.core :: [':'] :: entry.2) '\x7d')
        (enclosed '\x7b' blanks (entries.map fun entry => entry.1.text) '\x7d')

end CourseAdvisor.Json
