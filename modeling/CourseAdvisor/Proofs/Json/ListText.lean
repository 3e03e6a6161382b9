/-
This file proves what readers make of a list text, and that the list form of a record is read as its
object form when both give the same values.
-/

import CourseAdvisor.Proofs.Json.Deciding
import CourseAdvisor.Proofs.Json.Filling

namespace CourseAdvisor.Json

variable {α β : Type}

/-- An item holds a value of any shape, with blanks around it. -/
structure ItemText where
  padded : Padded
  lexemes : List (List Char)
  isValue : IsValue lexemes padded.core

namespace ItemText

/-- This is the text of the value alone. -/
def value (item : ItemText) : String := String.ofList item.padded.core

def tokens (item : ItemText) : List Token := item.lexemes.map lexemeToken

theorem shaped (item : ItemText) : Shaped item.tokens := item.isValue.scanned.2

theorem decides {reader : Reader α} (composed : Composed reader) (item : ItemText) :
    Decides reader item.tokens (decode reader item.value) :=
  item.isValue.decides composed

end ItemText

/-- A list text has items with blanks anywhere between its tokens. -/
structure ListText where
  before : List Char
  blanks : List Char
  items : List ItemText
  after : List Char
  blankBefore : IsBlanks before
  blankInside : IsBlanks blanks
  blankAfter : IsBlanks after

namespace ListText

def core (list : ListText) : List Char :=
  enclosed '[' list.blanks (list.items.map fun item => item.padded.text) ']'

def text (list : ListText) : String := String.ofList (list.before ++ list.core ++ list.after)

/-- These are the texts of the items. -/
def values (list : ListText) : List String := list.items.map ItemText.value

/-- A list text is a value itself and may stand in another list. -/
theorem isValue (list : ListText) :
    IsValue (enclosedLexemes '[' (list.items.map (·.lexemes)) ']') list.core := by
  have values : ∀ item ∈ list.items.map fun item => (item.padded, item.lexemes),
      IsValue item.2 item.1.core := by
    rw [List.forall_mem_map]
    exact fun item _ => item.isValue
  have isList := IsValue.list list.blankInside values
  rwa [List.map_map, List.map_map] at isList

/-- A list text is an item of another list. -/
def item (list : ListText) : ItemText where
  padded := ⟨list.before, list.core, list.after, list.blankBefore, list.blankAfter⟩
  lexemes := enclosedLexemes '[' (list.items.map (·.lexemes)) ']'
  isValue := list.isValue

/-- The tape of a list text has the tokens of its items. -/
theorem scanned (list : ListText) : scan list.text.toList =
    Tape.push (.openList :: listTokens (list.items.map ItemText.tokens)) .finished := by
  have scans : Scans list.item.padded.text _ := list.isValue.scanned.1.padded
  have tokens : (enclosedLexemes '[' (list.items.map (·.lexemes)) ']').map lexemeToken =
      .openList :: listTokens (list.items.map ItemText.tokens) := by
    rw [listTokens_eq, enclosedLexemes, List.map_cons, List.map_append, map_intercalate,
      List.map_map]
    rfl
  rw [text, String.toList_ofList, ← tokens]
  exact scans.alone

/-- A list of values is decoded when each of its items is, and fails with the first that fails. -/
theorem decode_values {reader : Reader α} (composed : Composed reader) (list : ListText) :
    decode (readList reader) list.text = list.values.mapM (decode reader) := by
  have decides : Decides (readList reader) _ (list.items.mapM fun item =>
      decode reader item.value) :=
    .list (fun item _ => item.shaped) fun item _ => item.decides composed
  rw [decides.decoded list.scanned, values, List.mapM_map]
  rfl

end ListText

/-- This is what a field makes of an item. -/
def Field.ofItem (field : Field α) (item : ItemText) : Except ReadError (α → α) :=
  decode field.read item.value

/-- This is what a field makes of the value of a member. -/
def Field.ofMember (field : Field α) (member : MemberText) : Except ReadError (α → α) :=
  decode field.read member.value

/-- An object text is an item of a list. -/
def ObjectText.item (object : ObjectText) : ItemText where
  padded := ⟨object.before, enclosed '\x7b' object.blanks
    (object.members.map fun member => member.entry.text) '\x7d', object.after,
    object.blankBefore, object.blankAfter⟩
  lexemes := enclosedLexemes '\x7b'
    (object.members.map fun member => member.entry.key.core :: [':'] :: member.lexemes) '\x7d'
  isValue := by
    have keys : ∀ entry ∈ object.members.map fun member => (member.entry, member.lexemes),
        IsQuoted entry.1.key.core := by
      rw [List.forall_mem_map]
      exact fun member _ => member.quotes.isQuoted
    have values : ∀ entry ∈ object.members.map fun member => (member.entry, member.lexemes),
        IsValue entry.2 entry.1.value.core := by
      rw [List.forall_mem_map]
      exact fun member _ => member.isValue
    have isObject := IsValue.object object.blankInside keys values
    rwa [List.map_map, List.map_map] at isObject

namespace RecordFormat

variable {format : RecordFormat α}

/-- A list form is decoded as its items are placed one after the other. -/
theorem decode_placed (composed : ∀ field ∈ format.fields, Composed field.read)
    (list : ListText) :
    decode format.read list.text =
      format.placed Field.ofItem 0 format.blank format.fields list.items :=
  have decides := read_list (fun item _ => item.shaped) fun field isField item _ =>
    item.decides (composed field isField)
  decides.decoded list.scanned

/-- An object form is decoded as its members are gathered one after the other. -/
theorem decode_gathered (composed : ∀ field ∈ format.fields, Composed field.read)
    (object : ObjectText) :
    decode format.read object.text =
      format.gathered (fun member => some member.key) Field.ofMember [] format.blank
        object.members := by
  have decides : Decides format.read (.openObject :: entryTokens
      (object.members.map fun member => (some member.key, member.tokens))) _ :=
    read_entries (fun member _ => member.isValue.scanned.2) fun member _ field isField =>
      member.isValue.decides (composed field isField)
  apply decides.decoded
  rw [object.scanned, objectTokens_eq, entryTokens, List.map_map, List.map_map]
  rfl

end RecordFormat

end CourseAdvisor.Json
