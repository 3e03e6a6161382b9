/-
This file reads decimals as doubles and finds the fewest digits that read back.
-/

import CourseAdvisor.Double.Rounding

namespace CourseAdvisor

/-- This is the decimal `digits * 10 ^ exponent`. -/
structure Decimal where
  digits : Nat
  exponent : Int
  deriving DecidableEq

namespace Decimal

/-- From this exponent on, every decimal but zero is beyond the largest double. -/
def beyond : Int := 400

/-- A decimal with fewer leading bits than this is nearer to zero than to any other double. -/
def vanishing : Int := -2000

/-- This is the double nearest to a decimal, ties going to the even significand. -/
def toDouble (negative : Bool) (decimal : Decimal) : Double :=
  if decimal.digits = 0 then .finite negative .zero
  else if beyond ≤ decimal.exponent then .infinite negative
  else if decimal.digits.log2 + 3 * decimal.exponent < vanishing then .finite negative .zero
  else if 0 ≤ decimal.exponent then
    Double.ofRatio negative (decimal.digits * Nat.pow 10 decimal.exponent.toNat) 1 Nat.one_pos
  else
    Double.ofRatio negative decimal.digits (Nat.pow 10 (-decimal.exponent).toNat)
      (Nat.pow_pos (by decide))

/-- A decimal reads back as a magnitude when that is the nearest double. -/
def ReadsBack (decimal : Decimal) (magnitude : Magnitude) : Prop :=
  decimal.toDouble false = .finite false magnitude

instance (decimal : Decimal) (magnitude : Magnitude) : Decidable (decimal.ReadsBack magnitude) :=
  inferInstanceAs (Decidable (_ = _))

end Decimal

/-- A tie between two equally near decimals goes to the upper or to the even one. -/
inductive Tie where
  | upper
  | even
  deriving DecidableEq

namespace Magnitude

/-- The last of these exact decimal digits stands at `10 ^ -scale`. -/
def expansion (magnitude : Magnitude) : Nat := magnitude.units * Nat.pow 5 Double.scale

/-- This is the exact decimal value of a magnitude. -/
def exact (magnitude : Magnitude) : Decimal := ⟨magnitude.expansion, -(Double.scale : Int)⟩

/-- The upper neighbour is preferred when it is nearer, or when a tie sends it there. -/
def prefersUpper (tie : Tie) (magnitude : Magnitude) (dropped : Nat) : Bool :=
  let place := Nat.pow 10 dropped
  let doubled := 2 * (magnitude.expansion % place)
  decide (place < doubled) ||
    (doubled == place &&
      match tie with
      | .upper => true
      | .even => magnitude.expansion / place % 2 == 1)

/-- Without its last digits a magnitude lies between two neighbours;
this is the preferred one of those that read back. -/
def neighbour? (tie : Tie) (magnitude : Magnitude) (dropped : Nat) : Option Decimal :=
  let exponent : Int := dropped - Double.scale
  let quotient := magnitude.expansion / Nat.pow 10 dropped
  let lower : Decimal := ⟨quotient, exponent⟩
  let upper : Decimal := ⟨quotient + 1, exponent⟩
  let ordered := if magnitude.prefersUpper tie dropped then [upper, lower] else [lower, upper]
  ordered.find? fun candidate => decide (candidate.ReadsBack magnitude)

/-- Digits come back one by one until a neighbour reads back. -/
def shortestDropping (tie : Tie) (magnitude : Magnitude) : Nat → Decimal
  | 0 => magnitude.exact
  | dropped + 1 =>
      (magnitude.neighbour? tie (dropped + 1)).getD (shortestDropping tie magnitude dropped)

/-- This is the decimal with the fewest digits that reads back. -/
def shortest (tie : Tie) (magnitude : Magnitude) : Decimal :=
  magnitude.shortestDropping tie ((Nat.toDigits 10 magnitude.expansion).length - 1)

end Magnitude

end CourseAdvisor
