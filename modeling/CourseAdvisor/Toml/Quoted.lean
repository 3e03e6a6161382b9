/-
This file writes TOML strings in the plainest quotes that fit.
-/

namespace CourseAdvisor.Toml

/-- There are basic and literal quotes, for one line or for many. -/
inductive Quotes where
  | basic
  | literal
  | longBasic
  | longLiteral
  deriving DecidableEq

/-- Of the control characters, tabs and newlines may stand in literal text. -/
def needsCode (char : Char) : Bool :=
  (decide (char.toNat < 32) && char != '\t' && char != '\n') || char.toNat == 127

/-- This is the length of the longest run of a quote, the current run counted in. -/
def longestRun (quote : Char) (current : Nat) : List Char → Nat
  | [] => current
  | char :: rest =>
      if char = quote then longestRun quote (current + 1) rest
      else max current (longestRun quote 0 rest)

/-- Text without anything special is basic, and literal quotes save escapes where they can. -/
def Quotes.forText (text : List Char) : Quotes :=
  let coded := text.any needsCode
  let escaped := coded || text.contains '\\'
  let isLong := text.contains '\n'
  let doubles := longestRun '"' 0 text
  let singles := longestRun '\'' 0 text
  if !escaped && doubles == 0 && !isLong then .basic
  else if !coded && singles == 0 && !isLong then .literal
  else if !escaped && decide (doubles ≤ 2) then .longBasic
  else if !coded && decide (singles ≤ 2) then .longLiteral
  else if isLong then .longBasic
  else .basic

/-- This is a hex digit in upper case. -/
def upperHexDigit (digit : Nat) : Char := (Nat.digitChar (digit % 16)).toUpper

def escapedChar (isLong : Bool) (char : Char) : List Char :=
  if char = '\\' then ['\\', '\\']
  else if char = '\x08' then ['\\', 'b']
  else if char = '\t' then ['\\', 't']
  else if char = '\n' then (if isLong then ['\n'] else ['\\', 'n'])
  else if char = '\x0c' then ['\\', 'f']
  else if char = '\r' then ['\\', 'r']
  else if char.toNat < 32 ∨ char.toNat = 127 then
    ['\\', 'u', '0', '0', upperHexDigit (char.toNat / 16), upperHexDigit char.toNat]
  else [char]

/-- Two quotes in a row may stand in basic text of many lines, and none in one line. -/
def escapedText (isLong : Bool) (run : Nat) : List Char → List Char
  | [] => []
  | char :: rest =>
      if char = '"' then
        if isLong ∧ run < 2 then '"' :: escapedText isLong (run + 1) rest
        else '\\' :: '"' :: escapedText isLong 0 rest
      else escapedChar isLong char ++ escapedText isLong 0 rest

/-- A newline right after long quotes is not part of the text. -/
def opening (text : List Char) : List Char := if text.contains '\n' then ['\n'] else []

def quotedIn (text : List Char) : Quotes → List Char
  | .basic => ['"'] ++ escapedText false 0 text ++ ['"']
  | .literal => ['\''] ++ text ++ ['\'']
  | .longBasic => ['"', '"', '"'] ++ opening text ++ escapedText true 0 text ++ ['"', '"', '"']
  | .longLiteral => ['\'', '\'', '\''] ++ opening text ++ text ++ ['\'', '\'', '\'']

def quoted (text : String) : List Char := quotedIn text.toList (.forText text.toList)

end CourseAdvisor.Toml
