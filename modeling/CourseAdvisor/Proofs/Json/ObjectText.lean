/-
This file proves what a record format makes of an object text, in whatever way it is written.
-/

import CourseAdvisor.Proofs.Json.Locality

namespace CourseAdvisor.Json

open FirstOccurrences

variable {α β : Type}

/-- A member spells its key in some way and holds a value of any shape. -/
structure MemberText where
  key : String
  entry : Entry
  lexemes : List (List Char)
  quotes : Quotes key entry.key.core
  isValue : IsValue lexemes entry.value.core

/-- This is the text of the value alone. -/
def MemberText.value (member : MemberText) : String := String.ofList member.entry.value.core

/-- These are the tokens of the value. -/
def MemberText.tokens (member : MemberText) : List Token := member.lexemes.map lexemeToken

/-- A member may have neither blanks nor escapes. -/
def MemberText.plain (key value : String) (plainKey : ArePlain key.toList)
    (plainValue : ArePlain value.toList) : MemberText where
  key := key
  entry := ⟨.bare ('"' :: key.toList ++ ['"']), .bare ('"' :: value.toList ++ ['"'])⟩
  lexemes := ['"' :: value.toList ++ ['"']]
  quotes := .plain plainKey
  isValue := .quoted (.plain plainValue)

/-- An object text has members in any order, with blanks anywhere between its tokens. -/
structure ObjectText where
  before : List Char
  blanks : List Char
  members : List MemberText
  after : List Char
  blankBefore : IsBlanks before
  blankInside : IsBlanks blanks
  blankAfter : IsBlanks after

namespace ObjectText

def text (object : ObjectText) : String :=
  String.ofList (object.before ++
    enclosed '\x7b' object.blanks (object.members.map fun member => member.entry.text) '\x7d' ++
    object.after)

def keys (object : ObjectText) : List String := object.members.map (·.key)

/-- The tape of an object text has the keys and the tokens of its members. -/
theorem scanned (object : ObjectText) : scan object.text.toList =
    Tape.push (.openObject :: objectTokens
      (object.members.map fun member => (member.key, member.tokens))) .finished := by
  have members : List.Forall₂ Scans (object.members.map fun member => member.entry.text)
      ((object.members.map fun member => (member.key, member.tokens)).map
        fun member => .text (some member.1) :: .colon :: member.2) := by
    rw [List.map_map, List.forall₂_map_left_iff, List.forall₂_map_right_iff, List.forall₂_same]
    exact fun member _ => .entry member.quotes.scans member.isValue.scanned.1
  have braces : Scans (enclosed '\x7b' object.blanks _ '\x7d') _ :=
    .enclosed (fun _ => rfl) (fun _ => rfl) (by simp) object.blankInside members
  have scans : scan (Padded.mk object.before _ object.after object.blankBefore
      object.blankAfter).text = _ := braces.padded.alone
  rw [text, String.toList_ofList, objectTokens_eq]
  exact scans

/-- This is what the reader decodes from the value of the first member with the key. -/
def value? (object : ObjectText) (key : String) (reader : Reader β) : Option β :=
  (object.members.find? (·.key == key)).bind fun member => (decode reader member.value).toOption

end ObjectText

theorem isOk_iff {outcome : Except ReadError β} :
    outcome.isOk = true ↔ ∃ value, outcome = .ok value := by
  cases outcome <;> simp [Except.isOk, Except.toBool]

namespace RecordFormat

variable {format : RecordFormat α} {object : ObjectText}

/-- These are the keys of the members that give a field. -/
def givenKeys (format : RecordFormat α) (object : ObjectText) : List String :=
  object.keys.filter format.isKnown

/-- The value under each known key is acceptable for its field. -/
def Accepts (format : RecordFormat α) (object : ObjectText) : Prop :=
  ∀ member ∈ object.members, ∀ field, format.field? member.key = some field →
    ∃ update, decode field.read member.value = .ok update

instance (format : RecordFormat α) (object : ObjectText) :
    Decidable (format.Accepts object) :=
  decidable_of_iff
    (∀ member ∈ object.members, ∀ field ∈ format.field? member.key,
      (decode field.read member.value).isOk = true) <| by
    simp only [isOk_iff]
    rfl

/-- A member updates the field that it gives. -/
def update (format : RecordFormat α) (member : MemberText) : α → α :=
  match format.field? member.key with
  | some field => (decode field.read member.value).toOption.getD id
  | none => id

/-- A field has the value that its member gives, or is left as it is. -/
def fill (object : ObjectText) (record : α) (field : Field α) : α :=
  (object.value? field.key field.read).getD id record

/-- This is the blank record with all the values that are given. -/
def filled (format : RecordFormat α) (object : ObjectText) : α :=
  format.fields.foldl (fill object) format.blank

end RecordFormat

/-- A text that is decoded alone is read wherever its tokens stand. -/
theorem Scans.reads {reader : Reader α} (isLocal : Local reader) {text : List Char}
    {tokens : List Token} (scans : Scans text tokens) {value : α}
    (decoded : decode reader (String.ofList text) = .ok value) : Reads reader tokens value := by
  rw [decode_eq_ok, String.toList_ofList, scans.alone] at decoded
  obtain ⟨head, others, same, reads⟩ := isLocal decoded
  rwa [Tape.push_inj same]

namespace RecordFormat

variable {format : RecordFormat α} {object : ObjectText}

/-- A member with an acceptable value is read as its update, before anything that may follow. -/
theorem readsMember_text (areLocal : ∀ field ∈ format.fields, Local field.read)
    (accepts : format.Accepts object) {member : MemberText} (isMember : member ∈ object.members) :
    format.ReadsMember (member.key, member.tokens) (format.update member) := by
  obtain ⟨scans, shaped⟩ := member.isValue.scanned
  unfold ReadsMember update
  cases known : format.field? member.key with
  | some field =>
      obtain ⟨update, decoded⟩ := accepts member isMember field known
      simp only [decoded]
      exact scans.reads (areLocal field (List.mem_of_find?_eq_some known)) decoded
  | none =>
      exact ⟨rfl, fun rest => (shaped.passes rfl [] rest).trans (skipFrom_done rest)⟩

/-- An object text is read as the updates of its members. -/
theorem read_objectText (areLocal : ∀ field ∈ format.fields, Local field.read)
    (accepts : format.Accepts object) :
    format.read (scan object.text.toList) =
      format.settled [] (format.givenKeys object)
        (revised (object.members.map format.update) format.blank) .finished := by
  have members : List.Forall₂ format.ReadsMember
      (object.members.map fun member => (member.key, member.tokens))
      (object.members.map format.update) := by
    rw [List.forall₂_map_left_iff, List.forall₂_map_right_iff, List.forall₂_same]
    exact fun member isMember => readsMember_text areLocal accepts isMember
  have known : format.knownKeys (object.members.map fun member => (member.key, member.tokens)) =
      format.givenKeys object := by
    rw [knownKeys, List.map_map]
    rfl
  rw [object.scanned, ← known, read_object members]

end RecordFormat

end CourseAdvisor.Json
