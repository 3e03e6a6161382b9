/-
This file defines TOML values and how statements build a table.
-/

import CourseAdvisor.Double.Basic

namespace CourseAdvisor

/-- A table is made by its own header, by headers or dotted keys that pass through it,
or in one piece. -/
inductive Toml.Origin where
  | header
  | passage
  | dotted
  | inline
  deriving DecidableEq

/-- Dates and times carry no value, because nothing asks for them. -/
inductive Toml where
  | string (content : String)
  | integer (value : Int)
  | number (value : Double)
  | boolean (value : Bool)
  | moment
  | list (items : List Toml)
  | table (origin : Toml.Origin) (entries : List (String × Toml))
  | tables (items : List (List (String × Toml)))

namespace Toml

abbrev Entries := List (String × Toml)

namespace Entries

/-- The value of a key is replaced, and a new key comes last. -/
def put (key : String) (value : Toml) : Entries → Entries
  | [] => [(key, value)]
  | (head, old) :: rest =>
      if head = key then (head, value) :: rest else (head, old) :: put key value rest

/-- A change inside a table knows where the table comes from.
On the way, missing tables are made, and the last of a list of tables stands for the list.
Dotted keys do not enter tables that have a header. -/
def within (made : Origin) :
    List String → Origin → (Origin → Entries → Option Entries) → Entries → Option Entries
  | [], origin, change, entries => change origin entries
  | key :: path, _, change, entries =>
      match entries.lookup key with
      | none => do
          let inner ← within made path made change []
          return entries.put key (.table made inner)
      | some (.table .inline _) => none
      | some (.table origin inner) => do
          guard (made ≠ .dotted ∨ origin ≠ .header)
          let inner ← within made path origin change inner
          return entries.put key (.table origin inner)
      | some (.tables items) => do
          let last ← items.getLast?
          let inner ← within made path .header change last
          return entries.put key (.tables (items.dropLast ++ [inner]))
      | some _ => none

/-- A value is set once, in a table of its own header or in one that dotted keys make. -/
def assign (path : List String) (key : String) (value : Toml) (entries : Entries) :
    Option Entries :=
  within .dotted path .header (fun origin entries => do
    guard (path.isEmpty ∨ origin = .dotted)
    guard (entries.lookup key).isNone
    return entries.put key value) entries

/-- A header opens a table that is new or was only passed through. -/
def openTable (path : List String) (key : String) (entries : Entries) : Option Entries :=
  within .passage path .header (fun _ entries =>
    match entries.lookup key with
    | none => some (entries.put key (.table .header []))
    | some (.table .passage inner) => some (entries.put key (.table .header inner))
    | some _ => none) entries

/-- A double header opens one more table of a list. -/
def appendTable (path : List String) (key : String) (entries : Entries) : Option Entries :=
  within .passage path .header (fun _ entries =>
    match entries.lookup key with
    | none => some (entries.put key (.tables [[]]))
    | some (.tables items) => some (entries.put key (.tables (items ++ [[]])))
    | some _ => none) entries

end Entries

/-- A key is a path with a last part. -/
structure Key where
  path : List String
  last : String

def Key.parts (key : Key) : List String := key.path ++ [key.last]

inductive Statement where
  | header (key : Key)
  | listHeader (key : Key)
  | assignment (key : Key) (value : Toml)

/-- A document has its entries so far and the path of the header that is in force. -/
structure Document where
  entries : Entries
  current : List String

namespace Document

def empty : Document := ⟨[], []⟩

def add (document : Document) : Statement → Option Document
  | .header key => do
      return ⟨← document.entries.openTable key.path key.last, key.parts⟩
  | .listHeader key => do
      return ⟨← document.entries.appendTable key.path key.last, key.parts⟩
  | .assignment key value => do
      let entries ← document.entries.within .passage document.current .header
        fun _ entries => entries.assign key.path key.last value
      return { document with entries }

def ofStatements (statements : List Statement) : Option Document :=
  statements.foldlM add empty

end Document

/-- An inline table is made of assignments alone. -/
def ofAssignments (assignments : List (Key × Toml)) : Option Toml := do
  let entries ← assignments.foldlM (fun entries (key, value) =>
    Entries.assign key.path key.last value entries) []
  return .table .inline entries

end Toml

end CourseAdvisor
