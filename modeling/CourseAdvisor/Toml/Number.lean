/-
This file reads TOML integers and floats.
-/

import CourseAdvisor.Double.Decimal
import CourseAdvisor.Toml.Text
import CourseAdvisor.Toml.Value

namespace CourseAdvisor.Toml

open Json (hexValue?)

/-- The digits go on, and an underscore needs a digit on both sides. -/
def readDigitsWith (isDigit : Char → Bool) : Reader (List Char)
  | '_' :: digit :: rest =>
      if isDigit digit then prepend digit (readDigitsWith isDigit rest) else none
  | '_' :: [] => none
  | digit :: rest =>
      if isDigit digit then prepend digit (readDigitsWith isDigit rest)
      else some ([], digit :: rest)
  | [] => some ([], [])

/-- At least one digit must come. -/
def readDigits (isDigit : Char → Bool) : Reader (List Char)
  | [] => none
  | digit :: rest =>
      if isDigit digit then prepend digit (readDigitsWith isDigit rest) else none

/-- Only zero itself starts with a zero. -/
def readWhole : Reader (List Char)
  | '0' :: rest => some (['0'], rest)
  | text => readDigits Char.isDigit text

def valueIn (base : Nat) (digits : List Char) : Nat :=
  digits.foldl (fun value digit => value * base + (hexValue? digit).getD 0) 0

def readSign : List Char → Bool × List Char
  | '-' :: rest => (true, rest)
  | '+' :: rest => (false, rest)
  | text => (false, text)

/-- Integers have 64 bits. -/
def ofInteger? (value : Int) : Option Toml :=
  if -0x8000000000000000 ≤ value ∧ value < 0x8000000000000000 then some (.integer value) else none

def readInBase (base : Nat) (isDigit : Char → Bool) (text : List Char) :
    Option (Toml × List Char) := do
  let (digits, rest) ← readDigits isDigit text
  return (← ofInteger? (valueIn base digits), rest)

/-- The digits after a point are missing when there is no point. -/
def readFraction : Reader (Option (List Char))
  | '.' :: rest => do
      let (digits, rest) ← readDigits Char.isDigit rest
      return (some digits, rest)
  | text => some (none, text)

def readExponent : Reader (Option Int)
  | [] => some (none, [])
  | char :: rest =>
      if char = 'e' ∨ char = 'E' then do
        let (negative, unsigned) := readSign rest
        let (digits, rest) ← readDigits Char.isDigit unsigned
        let value : Int := valueIn 10 digits
        return (some (if negative then -value else value), rest)
      else some (none, char :: rest)

/-- A float beyond the largest double is refused, one beyond the least is infinite. -/
def ofFloat? : Double → Option Toml
  | .infinite false => none
  | value => some (.number value)

/-- A number is a float when it has a point or an exponent. -/
def readDecimal (negative : Bool) (text : List Char) : Option (Toml × List Char) := do
  let (whole, rest) ← readWhole text
  let (fraction, rest) ← readFraction rest
  let (exponent, rest) ← readExponent rest
  if fraction.isNone ∧ exponent.isNone then
    let value : Int := valueIn 10 whole
    return (← ofInteger? (if negative then -value else value), rest)
  else
    let digits := fraction.getD []
    let decimal : Decimal := ⟨valueIn 10 (whole ++ digits), exponent.getD 0 - digits.length⟩
    return (← ofFloat? (decimal.toDouble negative), rest)

/-- Other bases have no sign; infinity and not-a-number may have one. -/
def readNumber (text : List Char) : Option (Toml × List Char) :=
  match text with
  | '0' :: 'x' :: rest => readInBase 16 (fun digit => (hexValue? digit).isSome) rest
  | '0' :: 'o' :: rest => readInBase 8 (fun digit => decide ('0' ≤ digit ∧ digit ≤ '7')) rest
  | '0' :: 'b' :: rest => readInBase 2 (fun digit => digit == '0' || digit == '1') rest
  | text =>
      let (negative, unsigned) := readSign text
      match unsigned with
      | 'i' :: 'n' :: 'f' :: rest => some (.number (.infinite negative), rest)
      | 'n' :: 'a' :: 'n' :: rest => some (.number .notNumber, rest)
      | unsigned => readDecimal negative unsigned

end CourseAdvisor.Toml
