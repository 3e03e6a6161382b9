/-
This file writes doubles as text in the styles that the formats ask for.
-/

import CourseAdvisor.Double.Decimal

namespace CourseAdvisor

/-- A style fixes how doubles are written.
The point is the number of digits before the decimal point. -/
structure NumberStyle where
  positional : Int → Bool
  keepsPoint : Bool
  tie : Tie
  notNumber : String
  infinite : Bool → String

namespace NumberStyle

/-- Plain numbers never have an exponent, and whole ones no point. -/
def plain : NumberStyle where
  positional _ := true
  keepsPoint := false
  tie := .upper
  notNumber := "NaN"
  infinite negative := if negative then "-inf" else "inf"

/-- Pointed numbers never have an exponent and always a point. -/
def pointed : NumberStyle where
  positional _ := true
  keepsPoint := true
  tie := .upper
  notNumber := "nan"
  infinite negative := if negative then "-inf" else "inf"

/-- Interchange numbers are positional from `1e-5` up to below `1e16`. -/
def interchange : NumberStyle where
  positional point := decide (-4 ≤ point) && decide (point ≤ 16)
  keepsPoint := true
  tie := .even
  notNumber := "null"
  infinite _ := "null"

end NumberStyle

namespace Decimal

/-- Trailing zeros are left out, and zero keeps one digit. -/
def significantDigits (decimal : Decimal) : List Char :=
  match ((Nat.toDigits 10 decimal.digits).reverse.dropWhile (· = '0')).reverse with
  | [] => ['0']
  | digits => digits

/-- This many digits stand before the decimal point. -/
def point (decimal : Decimal) : Int :=
  (Nat.toDigits 10 decimal.digits).length + decimal.exponent

/-- These are the digits before and after the decimal point. -/
def aroundPoint (digits : List Char) (point : Int) : List Char × List Char :=
  if point ≤ 0 then (['0'], List.replicate (-point).toNat '0' ++ digits)
  else if digits.length ≤ point then
    (digits ++ List.replicate (point - digits.length).toNat '0', [])
  else (digits.take point.toNat, digits.drop point.toNat)

def positionalText (keepsPoint : Bool) (digits : List Char) (point : Int) : List Char :=
  match aroundPoint digits point with
  | (whole, []) => if keepsPoint then whole ++ ['.', '0'] else whole
  | (whole, fraction) => whole ++ '.' :: fraction

def exponentText (digits : List Char) (point : Int) : List Char :=
  let significand := match digits with
    | [] => []
    | [digit] => [digit]
    | digit :: fraction => digit :: '.' :: fraction
  let sign := if point ≤ 0 then '-' else '+'
  significand ++ 'e' :: sign :: Nat.toDigits 10 (point - 1).natAbs

def written (style : NumberStyle) (decimal : Decimal) : List Char :=
  if style.positional decimal.point then
    positionalText style.keepsPoint decimal.significantDigits decimal.point
  else exponentText decimal.significantDigits decimal.point

end Decimal

namespace Magnitude

/-- Zero is the decimal without significant digits. -/
def toDecimal (tie : Tie) (magnitude : Magnitude) : Decimal :=
  if magnitude.units = 0 then ⟨0, 0⟩ else magnitude.shortest tie

end Magnitude

namespace Double

/-- This is the text of a double in a style. -/
def written (style : NumberStyle) : Double → List Char
  | .notNumber => style.notNumber.toList
  | .infinite negative => (style.infinite negative).toList
  | .finite negative magnitude =>
      let digits := (magnitude.toDecimal style.tie).written style
      if negative then '-' :: digits else digits

def text (style : NumberStyle) (value : Double) : String := String.ofList (value.written style)

end Double

end CourseAdvisor
