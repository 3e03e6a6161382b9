/-
This file defines the numerals of JSON text and the doubles that they stand for.
-/

import CourseAdvisor.Double.Scaling

namespace CourseAdvisor.Json

/-- A numeral keeps its digits as they are written. -/
structure Numeral where
  negative : Bool
  whole : List Char
  fraction : List Char
  exponent : Option Int
  deriving DecidableEq

def digitValue (digit : Char) : Nat := digit.toNat - '0'.toNat

/-- These digits make a whole number. -/
def digitsValue (digits : List Char) : Nat :=
  digits.foldl (fun value digit => value * 10 + digitValue digit) 0

/-- A hex digit may be written in either letter case. -/
def hexValue? (char : Char) : Option Nat :=
  if '0' ≤ char ∧ char ≤ '9' then some (char.toNat - '0'.toNat)
  else if 'a' ≤ char ∧ char ≤ 'f' then some (char.toNat - 'a'.toNat + 10)
  else if 'A' ≤ char ∧ char ≤ 'F' then some (char.toNat - 'A'.toNat + 10)
  else none

/-- A significand takes at most 64 bits. -/
def significandLimit : Nat := 0x10000000000000000

/-- A significand takes up digits until one does not fit, and that one and the rest are left. -/
def takeUp (significand : Nat) : List Char → Nat × List Char
  | [] => (significand, [])
  | digit :: rest =>
      let longer := significand * 10 + digitValue digit
      if longer < significandLimit then takeUp longer rest else (significand, digit :: rest)

namespace Numeral

/-- A numeral is whole when it has neither a point nor an exponent. -/
def isWhole (numeral : Numeral) : Bool := numeral.fraction.isEmpty && numeral.exponent.isNone

/-- This is the decimal that is written, without the digits that do not fit into the significand.
Left whole digits count as zeros, and left fraction digits do not count. -/
def condensed (numeral : Numeral) : Decimal :=
  let (wholeSignificand, zeros) := takeUp 0 numeral.whole
  let (significand, ignored) := takeUp wholeSignificand numeral.fraction
  ⟨significand,
    numeral.exponent.getD 0 + zeros.length + ignored.length - numeral.fraction.length⟩

/-- A numeral beyond the largest double has no value. -/
def value? (numeral : Numeral) : Option Double :=
  match numeral.condensed.scaled numeral.negative with
  | .infinite _ => none
  | value => some value

/-- A whole numeral is an integer within 64 bits, and minus zero is not. -/
def integer? (numeral : Numeral) : Option Int :=
  let magnitude := digitsValue numeral.whole
  if !numeral.isWhole then none
  else if numeral.negative then
    if 0 < magnitude ∧ magnitude ≤ 0x8000000000000000 then some (-(magnitude : Int)) else none
  else if magnitude < significandLimit then some magnitude
  else none

end Numeral

end CourseAdvisor.Json
