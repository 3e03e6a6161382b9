/-
This file writes JSON values, compactly and with indentation.
-/

import CourseAdvisor.Double.Written
import CourseAdvisor.Json.Value

namespace CourseAdvisor

namespace Json

/-- This is a digit of a character code, in lower case. -/
def hexDigit (digit : Nat) : Char := Nat.digitChar (digit % 16)

/-- Only the quote, the backslash and control characters are escaped. -/
def escaped (char : Char) : List Char :=
  if char = '"' then ['\\', '"']
  else if char = '\\' then ['\\', '\\']
  else if char = '\x08' then ['\\', 'b']
  else if char = '\x0c' then ['\\', 'f']
  else if char = '\n' then ['\\', 'n']
  else if char = '\r' then ['\\', 'r']
  else if char = '\t' then ['\\', 't']
  else if char.toNat < 32 then
    ['\\', 'u', '0', '0', hexDigit (char.toNat / 16), hexDigit char.toNat]
  else [char]

def quoted (content : String) : List Char := '"' :: content.toList.flatMap escaped ++ ['"']

/-- This is the text of a value that holds no other values. -/
def scalar : Json → List Char
  | .boolean true => "true".toList
  | .boolean false => "false".toList
  | .integer value => value.repr.toList
  | .number value => value.written .interchange
  | .text content => quoted content
  | _ => "null".toList

mutual

/-- Compact text has no blanks between its tokens. -/
def compact : Json → List Char
  | .list items => '[' :: compactItems items
  | .object members => '\x7b' :: compactMembers members
  | value => value.scalar

def compactItems : List Json → List Char
  | [] => [']']
  | [item] => item.compact ++ [']']
  | item :: rest => item.compact ++ ',' :: compactItems rest

def compactMembers : List (String × Json) → List Char
  | [] => ['\x7d']
  | [(key, value)] => quoted key ++ ':' :: value.compact ++ ['\x7d']
  | (key, value) :: rest => quoted key ++ ':' :: value.compact ++ ',' :: compactMembers rest

end

/-- A new line starts with two blanks for each level of nesting. -/
def newLine (depth : Nat) : List Char := '\n' :: List.replicate (2 * depth) ' '

mutual

/-- Pretty text has one line for each item and member; empty lists and objects stay closed. -/
def pretty (depth : Nat) : Json → List Char
  | .list [] => ['[', ']']
  | .list items => '[' :: prettyItems (depth + 1) items ++ newLine depth ++ [']']
  | .object [] => ['\x7b', '\x7d']
  | .object members => '\x7b' :: prettyMembers (depth + 1) members ++ newLine depth ++ ['\x7d']
  | value => value.scalar

def prettyItems (depth : Nat) : List Json → List Char
  | [] => []
  | [item] => newLine depth ++ item.pretty depth
  | item :: rest => newLine depth ++ item.pretty depth ++ ',' :: prettyItems depth rest

def prettyMembers (depth : Nat) : List (String × Json) → List Char
  | [] => []
  | [(key, value)] => newLine depth ++ quoted key ++ ':' :: ' ' :: value.pretty depth
  | (key, value) :: rest =>
      newLine depth ++ quoted key ++ ':' :: ' ' :: value.pretty depth ++
        ',' :: prettyMembers depth rest

end

def compactText (value : Json) : String := String.ofList value.compact

def prettyText (value : Json) : String := String.ofList (value.pretty 0)

end Json

end CourseAdvisor
