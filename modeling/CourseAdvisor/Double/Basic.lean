/-
This file defines doubles as exact multiples of the least unit, with their order.
-/

namespace CourseAdvisor

/-- The least positive double is `2 ^ -scale`, and every finite double is a whole number of it. -/
def Double.scale : Nat := 1074

/-- Every finite magnitude is below this number of units. -/
def Double.limit : Nat := Nat.pow 2 2098

/-- A precise count of units has at most 53 significant bits. -/
def Double.Precise (units : Nat) : Prop := units % Nat.pow 2 (units.log2 - 52) = 0

instance (units : Nat) : Decidable (Double.Precise units) :=
  inferInstanceAs (Decidable (_ = _))

/-- This is the absolute value of a finite double, counted in units. -/
structure Magnitude where
  units : Nat
  bounded : units < Double.limit
  precise : Double.Precise units
  deriving DecidableEq

def Magnitude.zero : Magnitude := ⟨0, by decide +kernel, by decide⟩

/-- This is a double-precision number, where zero has two signs. -/
inductive Double where
  | notNumber
  | infinite (negative : Bool)
  | finite (negative : Bool) (magnitude : Magnitude)
  deriving DecidableEq

namespace Double

def zero : Double := .finite false .zero

instance : Inhabited Double := ⟨zero⟩

/-- A sign turns a count of units into a place on the number line. -/
def signed (negative : Bool) (units : Nat) : Int :=
  if negative then -(units : Int) else units

/-- This is the place on the number line; what is not a number has none. -/
def position? : Double → Option Int
  | .notNumber => none
  | .infinite negative => some (signed negative limit)
  | .finite negative magnitude => some (signed negative magnitude.units)

/-- Two doubles are in order only when both have a place. -/
def AtMost (left right : Double) : Prop :=
  ∃ low ∈ left.position?, ∃ high ∈ right.position?, low ≤ high

def Below (left right : Double) : Prop :=
  ∃ low ∈ left.position?, ∃ high ∈ right.position?, low < high

instance : LE Double := ⟨AtMost⟩

instance : LT Double := ⟨Below⟩

instance (left right : Double) : Decidable (left ≤ right) :=
  inferInstanceAs (Decidable (∃ low ∈ left.position?, ∃ high ∈ right.position?, low ≤ high))

instance (left right : Double) : Decidable (left < right) :=
  inferInstanceAs (Decidable (∃ low ∈ left.position?, ∃ high ∈ right.position?, low < high))

end Double

end CourseAdvisor
