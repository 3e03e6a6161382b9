/-
This file checks TOML dates and times.
-/

import CourseAdvisor.Toml.Text

namespace CourseAdvisor.Toml

/-- This reads an exact number of digits. -/
def readFixed (count : Nat) : Reader Nat := fun text => do
  let digits := text.take count
  guard (digits.length = count ∧ digits.all Char.isDigit)
  return (digits.foldl (fun value digit => value * 10 + (digit.toNat - '0'.toNat)) 0,
    text.drop count)

/-- This reads digits whose value lies in a range. -/
def readBetween (count low high : Nat) : Reader Nat := fun text => do
  let (value, rest) ← readFixed count text
  guard (low ≤ value ∧ value ≤ high)
  return (value, rest)

def readChar (char : Char) : Reader Unit
  | head :: rest => if head = char then some ((), rest) else none
  | [] => none

def isLeapYear (year : Nat) : Bool :=
  year % 4 == 0 && (year % 100 != 0 || year % 400 == 0)

def daysIn (year month : Nat) : Nat :=
  if month = 2 then (if isLeapYear year then 29 else 28)
  else if month = 4 ∨ month = 6 ∨ month = 9 ∨ month = 11 then 30
  else 31

/-- The day must exist in its month. -/
def skipDate (text : List Char) : Option (List Char) := do
  let (year, rest) ← readFixed 4 text
  let ((), rest) ← readChar '-' rest
  let (month, rest) ← readBetween 2 1 12 rest
  let ((), rest) ← readChar '-' rest
  let (_, rest) ← readBetween 2 1 (daysIn year month) rest
  return rest

/-- A fraction of a second has at least one digit. -/
def skipFraction : List Char → List Char
  | '.' :: digit :: rest =>
      if digit.isDigit then rest.dropWhile Char.isDigit else '.' :: digit :: rest
  | text => text

/-- The last second of a minute may be a leap second. -/
def skipTime (text : List Char) : Option (List Char) := do
  let (_, rest) ← readBetween 2 0 23 text
  let ((), rest) ← readChar ':' rest
  let (_, rest) ← readBetween 2 0 59 rest
  let ((), rest) ← readChar ':' rest
  let (_, rest) ← readBetween 2 0 60 rest
  return skipFraction rest

/-- An offset is optional, but one that has begun must be complete. -/
def skipOffset : List Char → Option (List Char)
  | [] => some []
  | char :: rest =>
      if char = 'Z' ∨ char = 'z' then some rest
      else if char = '+' ∨ char = '-' then do
        let (_, rest) ← readBetween 2 0 23 rest
        let ((), rest) ← readChar ':' rest
        let (_, rest) ← readBetween 2 0 59 rest
        return rest
      else some (char :: rest)

/-- A text starts like a date or like a time. -/
def startsDate (text : List Char) : Bool :=
  (text.take 4).length == 4 && (text.take 4).all Char.isDigit && text[4]? == some '-'

def startsTime (text : List Char) : Bool :=
  (text.take 2).length == 2 && (text.take 2).all Char.isDigit && text[2]? == some ':'

/-- A date goes on with a time after a letter or a single blank. -/
def skipMoment (text : List Char) : Option (List Char) :=
  if startsDate text then do
    let rest ← skipDate text
    match rest with
    | char :: time =>
        if (char = 'T' ∨ char = 't' ∨ char = ' ') ∧ startsTime time then do
          skipOffset (← skipTime time)
        else return rest
    | [] => return []
  else skipTime text

end CourseAdvisor.Toml
