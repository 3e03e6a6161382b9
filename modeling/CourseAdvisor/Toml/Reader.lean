/-
This file reads TOML documents.
-/

import CourseAdvisor.Toml.Moment
import CourseAdvisor.Toml.Number

namespace CourseAdvisor.Toml

/-- Keys and nested values stop short of this many levels. -/
def depthLimit : Nat := 80

/-- A comment goes on to the end of its line. -/
def skipComment : List Char → List Char
  | '#' :: rest => rest.dropWhile isShown
  | text => text

/-- Between the items of a list there may be newlines and comments. -/
def skipSpaceWithin : Nat → List Char → List Char
  | 0, text => text
  | fuel + 1, text =>
      let rest := skipComment (skipBlanks text)
      match readNewline rest with
      | some ((), rest) => skipSpaceWithin fuel rest
      | none => rest

def skipSpace (text : List Char) : List Char := skipSpaceWithin (text.length + 1) text

/-- The parts of a key are separated by points, and blanks may stand around each part. -/
def readKeyWithin : Nat → Reader (List String)
  | 0, _ => none
  | fuel + 1, text => do
      let (part, rest) ← readKeyPart (skipBlanks text)
      match skipBlanks rest with
      | '.' :: rest => do
          let (parts, rest) ← readKeyWithin fuel rest
          return (part :: parts, rest)
      | rest => return ([part], rest)

def readKey : Reader Key := fun text => do
  let (parts, rest) ← readKeyWithin (text.length + 1) text
  guard (parts.length < depthLimit)
  let last ← parts.getLast?
  return (⟨parts.dropLast, last⟩, rest)

/-- This reads an assignment up to the end of its value. -/
def readAssignment (readValue : Reader Toml) : Reader (Key × Toml) := fun text => do
  let (key, rest) ← readKey text
  let ((), rest) ← readChar '=' rest
  let (value, rest) ← readValue (skipBlanks rest)
  return ((key, value), skipBlanks rest)

/-- The items go on as long as commas follow, and the last comma may be followed by none. -/
def readItemsWithin (readValue : Reader Toml) : Nat → Reader (List Toml)
  | 0, _ => none
  | fuel + 1, text =>
      match skipSpace text with
      | ']' :: rest => some ([], rest)
      | text => do
          let (item, rest) ← readValue text
          match skipSpace rest with
          | ']' :: rest => return ([item], rest)
          | ',' :: rest => do
              let (items, rest) ← readItemsWithin readValue fuel rest
              return (item :: items, rest)
          | _ => none

/-- After a comma one more assignment must come. -/
def readMembersWithin (readValue : Reader Toml) : Nat → Reader (List (Key × Toml))
  | 0, _ => none
  | fuel + 1, text => do
      let (member, rest) ← readAssignment readValue text
      match rest with
      | '\x7d' :: rest => return ([member], rest)
      | ',' :: rest => do
          let (members, rest) ← readMembersWithin readValue fuel rest
          return (member :: members, rest)
      | _ => none

def readInlineTable (readValue : Reader Toml) : Reader Toml := fun text =>
  match skipBlanks text with
  | '\x7d' :: rest => some (.table .inline [], rest)
  | text => do
      let (members, rest) ← readMembersWithin readValue (text.length + 1) text
      return (← ofAssignments members, rest)

/-- This reads a value that holds no other values. -/
def readScalar : Reader Toml := fun text =>
  match text with
  | '"' :: _ | '\'' :: _ => do
      let (content, rest) ← readText text
      return (.string content, rest)
  | 't' :: 'r' :: 'u' :: 'e' :: rest => some (.boolean true, rest)
  | 'f' :: 'a' :: 'l' :: 's' :: 'e' :: rest => some (.boolean false, rest)
  | text =>
      if startsDate text || startsTime text then
        (skipMoment text).map fun rest => (.moment, rest)
      else readNumber text

/-- Lists and inline tables may be nested as deep as the number says. -/
def readValue : Nat → Reader Toml
  | 0, text => readScalar text
  | depth + 1, text =>
      match text with
      | '[' :: rest => do
          let (items, rest) ← readItemsWithin (readValue depth) (rest.length + 1) rest
          return (.list items, rest)
      | '\x7b' :: rest => readInlineTable (readValue depth) rest
      | text => readScalar text

/-- Nothing but blanks and a comment may follow on the line. -/
def skipLine (text : List Char) : Option (List Char) :=
  match skipComment (skipBlanks text) with
  | [] => some []
  | rest => (readNewline rest).map Prod.snd

def readHeader : Reader Statement := fun text =>
  match text with
  | '[' :: rest => do
      let (key, rest) ← readKey rest
      let ((), rest) ← readChar ']' rest
      let ((), rest) ← readChar ']' rest
      return (.listHeader key, rest)
  | text => do
      let (key, rest) ← readKey text
      let ((), rest) ← readChar ']' rest
      return (.header key, rest)

def readStatement : Reader Statement := fun text =>
  match text with
  | '[' :: rest => readHeader rest
  | text => do
      let ((key, value), rest) ← readAssignment (readValue (depthLimit - 1)) text
      return (.assignment key value, rest)

/-- A line holds one statement or none; each line takes a character. -/
def readStatementsWithin : Nat → List Char → Option (List Statement)
  | 0, _ => none
  | fuel + 1, text =>
      match skipBlanks text with
      | [] => some []
      | text =>
          match skipLine text with
          | some rest => readStatementsWithin fuel rest
          | none => do
              let (statement, rest) ← readStatement text
              let statements ← readStatementsWithin fuel (← skipLine rest)
              return statement :: statements

/-- A byte order mark at the start is left out. -/
def skipMark : List Char → List Char
  | '\ufeff' :: rest => rest
  | text => text

/-- These are the entries of a whole document. -/
def entries? (text : String) : Option Entries := do
  let chars := skipMark text.toList
  let statements ← readStatementsWithin (chars.length + 1) chars
  let document ← Document.ofStatements statements
  return document.entries

end CourseAdvisor.Toml
