/-
This file reads TOML strings.
-/

import CourseAdvisor.Json.Numeral

namespace CourseAdvisor.Toml

open Json (hexValue?)

/-- A reader takes a value from the front of a text and leaves the rest. -/
abbrev Reader (α : Type) := List Char → Option (α × List Char)

def isBlank (char : Char) : Bool := char == ' ' || char == '\t'

def skipBlanks (text : List Char) : List Char := text.dropWhile isBlank

/-- Of the control characters, only the tab may stand in comments and strings. -/
def isShown (char : Char) : Bool :=
  char == '\t' || (decide (32 ≤ char.toNat) && char.toNat != 127)

/-- A line ends with a line feed, which a carriage return may precede. -/
def readNewline : Reader Unit
  | '\n' :: rest => some ((), rest)
  | '\r' :: '\n' :: rest => some ((), rest)
  | _ => none

/-- A newline right after the opening quotes is left out. -/
def skipNewline (text : List Char) : List Char :=
  match readNewline text with
  | some ((), rest) => rest
  | none => text

/-- Hex digits of an exact number must name a character. -/
def readCodePoint (count : Nat) : Reader Char := fun text => do
  let digits ← (text.take count).mapM hexValue?
  guard (digits.length = count)
  let code := digits.foldl (fun code digit => code * 16 + digit) 0
  guard code.isValidChar
  return (Char.ofNat code, text.drop count)

/-- This reads what follows a backslash. -/
def readEscape : Reader Char
  | 'b' :: rest => some ('\x08', rest)
  | 't' :: rest => some ('\t', rest)
  | 'n' :: rest => some ('\n', rest)
  | 'f' :: rest => some ('\x0c', rest)
  | 'r' :: rest => some ('\r', rest)
  | '"' :: rest => some ('"', rest)
  | '\\' :: rest => some ('\\', rest)
  | 'u' :: rest => readCodePoint 4 rest
  | 'U' :: rest => readCodePoint 8 rest
  | _ => none

/-- A backslash at the end of a line leaves out every blank and newline up to the next text. -/
def skipLineEnds : Nat → List Char → List Char
  | 0, text => text
  | fuel + 1, text =>
      match readNewline (skipBlanks text) with
      | some ((), rest) => skipLineEnds fuel rest
      | none => skipBlanks text

/-- This is the line continuation after a backslash, when there is one. -/
def lineContinuation? (text : List Char) : Option (List Char) := do
  let ((), rest) ← readNewline (skipBlanks text)
  return skipLineEnds (rest.length + 1) rest

/-- Up to two quotes may stand right before the three that close. -/
def closingRun? (quote : Char) (text : List Char) : Option (List Char × List Char) :=
  let run := (text.takeWhile (· = quote)).length
  if 3 ≤ run then
    let extra := min (run - 3) 2
    some (List.replicate extra quote, text.drop (extra + 3))
  else none

def prepend {α : Type} (char : α) (result : Option (List α × List Char)) :
    Option (List α × List Char) :=
  result.map fun (content, rest) => (char :: content, rest)

/-- This reads basic text after its opening quote; each step takes a character. -/
def readBasicWithin : Nat → Reader (List Char)
  | 0, _ => none
  | fuel + 1, text =>
      match text with
      | [] => none
      | '"' :: rest => some ([], rest)
      | '\\' :: rest => do
          let (char, rest) ← readEscape rest
          prepend char (readBasicWithin fuel rest)
      | char :: rest => if isShown char then prepend char (readBasicWithin fuel rest) else none

/-- This reads basic text of many lines after its opening quotes. -/
def readLongBasicWithin : Nat → Reader (List Char)
  | 0, _ => none
  | fuel + 1, text =>
      match closingRun? '"' text with
      | some closed => some closed
      | none =>
          match text with
          | [] => none
          | '\\' :: rest =>
              match lineContinuation? rest with
              | some rest => readLongBasicWithin fuel rest
              | none => do
                  let (char, rest) ← readEscape rest
                  prepend char (readLongBasicWithin fuel rest)
          | char :: rest =>
              match readNewline (char :: rest) with
              | some ((), rest) => prepend '\n' (readLongBasicWithin fuel rest)
              | none =>
                  if isShown char then prepend char (readLongBasicWithin fuel rest) else none

/-- This reads literal text after its opening quote. -/
def readLiteral : Reader (List Char)
  | [] => none
  | '\'' :: rest => some ([], rest)
  | char :: rest => if isShown char then prepend char (readLiteral rest) else none

/-- This reads literal text of many lines after its opening quotes. -/
def readLongLiteralWithin : Nat → Reader (List Char)
  | 0, _ => none
  | fuel + 1, text =>
      match closingRun? '\'' text with
      | some closed => some closed
      | none =>
          match text with
          | [] => none
          | char :: rest =>
              match readNewline (char :: rest) with
              | some ((), rest) => prepend '\n' (readLongLiteralWithin fuel rest)
              | none =>
                  if isShown char then prepend char (readLongLiteralWithin fuel rest) else none

/-- This reads text in any of the four kinds of quotes. -/
def readText : Reader String := fun text => do
  let (content, rest) ← match text with
    | '"' :: '"' :: '"' :: rest =>
        readLongBasicWithin (rest.length + 1) (skipNewline rest)
    | '"' :: rest => readBasicWithin (rest.length + 1) rest
    | '\'' :: '\'' :: '\'' :: rest =>
        readLongLiteralWithin (rest.length + 1) (skipNewline rest)
    | '\'' :: rest => readLiteral rest
    | _ => none
  return (String.ofList content, rest)

def isBare (char : Char) : Bool := char.isAlphanum || char == '-' || char == '_'

/-- One part of a key is bare or in quotes of one line. -/
def readKeyPart : Reader String
  | '"' :: rest => do
      let (content, rest) ← readBasicWithin (rest.length + 1) rest
      return (String.ofList content, rest)
  | '\'' :: rest => do
      let (content, rest) ← readLiteral rest
      return (String.ofList content, rest)
  | text =>
      match text.takeWhile isBare with
      | [] => none
      | part => some (String.ofList part, text.dropWhile isBare)

end CourseAdvisor.Toml
