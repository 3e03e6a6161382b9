/-
This file reads records, which are written as objects or as lists of their fields.
-/

import CourseAdvisor.Json.Ignored
import CourseAdvisor.Json.Value

namespace CourseAdvisor.Json

/-- A field reads its value as an update of the record. -/
structure Field (α : Type) where
  key : String
  hasDefault : Bool
  read : Reader (α → α)

/-- A record must give this field. -/
def Field.required {α β : Type} (key : String) (reader : Reader β) (set : β → α → α) : Field α :=
  ⟨key, false, readMapped set reader⟩

/-- A record may leave this field at the value of the blank record. -/
def Field.optional {α β : Type} (key : String) (reader : Reader β) (set : β → α → α) : Field α :=
  ⟨key, true, readMapped set reader⟩

/-- A record format lists the fields in the order of the list form.
The blank record holds the default of every field that has one. -/
structure RecordFormat (α : Type) where
  name : String
  blank : α
  fields : List (Field α)

namespace RecordFormat

variable {α : Type} (format : RecordFormat α)

def field? (key : String) : Option (Field α) :=
  format.fields.find? fun field => field.key == key

/-- This is the first field in order that the object form must give and does not. -/
def missing? (seen : List String) : Option (Field α) :=
  format.fields.find? fun field => !field.hasDefault && !seen.contains field.key

/-- This reads what belongs to a key: an update of the record, or nothing for an unknown key. -/
def readMember (seen : List String) (key : String) (tape : Tape) :
    Except ReadError ((α → α) × List String × Tape) :=
  match format.field? key with
  | some field =>
      if seen.contains key then throw (.misfit (.duplicateField key))
      else do
        let rest ← readColon tape
        let (update, rest) ← field.read rest
        return (update, key :: seen, rest)
  | none => do
      let rest ← readColon tape
      let rest ← skipValue rest
      return (id, seen, rest)

/-- The closing brace comes when every field without a default has been seen. -/
def finish (seen : List String) (record : α) (rest : Tape) : Except ReadError (α × Tape) :=
  match format.missing? seen with
  | some field => throw (.misfit (.missingField field.key))
  | none => return (record, rest)

/-- The members go on as long as commas follow; each takes a token, so the tape is fuel enough. -/
def readMembers : Nat → List String → α → Reader α
  | 0, _, _, tape => .error tape.keyless
  | fuel + 1, seen, record, tape =>
      match tape with
      | .token (.text (some key)) rest => do
          let (update, seen, rest) ← format.readMember seen key rest
          match rest with
          | .token .closeObject rest => format.finish seen (update record) rest
          | .token .comma rest => readMembers fuel seen (update record) rest
          | rest => throw rest.misplaced
      | tape => throw tape.keyless

/-- This reads the fields in order; those after the closing bracket must have defaults. -/
def readPositions (count : Nat) (record : α) : List (Field α) → Reader α
  | [], .token .closeList rest => .ok (record, rest)
  | [], tape => .error tape.misplaced
  | field :: fields, .token .closeList rest =>
      if (field :: fields).all (·.hasDefault) then .ok (record, rest)
      else .error (.misfit (.wrongLength count format.name format.fields.length))
  | field :: fields, tape => do
      let tape ← if count = 0 then pure tape else
        match tape with
        | .token .comma rest => pure rest
        | tape => throw tape.misplaced
      let (update, rest) ← field.read tape
      readPositions (count + 1) (update record) fields rest

/-- An object gives the fields by key and a list by position. -/
def read : Reader α
  | .token .openObject (.token .closeObject rest) => format.finish [] format.blank rest
  | .token .openObject rest => format.readMembers (rest.length + 1) [] format.blank rest
  | .token .openList rest => format.readPositions 0 format.blank format.fields rest
  | tape => .error (tape.unfit (.record format.name))

end RecordFormat

/-- A whole text holds one value and nothing else but blanks. -/
def decode {α : Type} (reader : Reader α) (text : String) : Except ReadError α := do
  let (value, rest) ← reader (scan text.toList)
  match rest with
  | .finished => return value
  | _ => throw (.grammar .malformed)

end CourseAdvisor.Json
