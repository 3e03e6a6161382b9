/-
This file defines the character classes that are given by ranges of codes.
-/

namespace CourseAdvisor.Text

def isCodeWithin (first last : Nat) (char : Char) : Bool :=
  decide (first ≤ char.toNat) && decide (char.toNat ≤ last)

/-- These are the first and last codes of the ranges. -/
abbrev CodeRanges : Type := List (Nat × Nat)

def CodeRanges.contains (ranges : CodeRanges) (char : Char) : Bool :=
  ranges.any fun range => isCodeWithin range.1 range.2 char

end CourseAdvisor.Text
