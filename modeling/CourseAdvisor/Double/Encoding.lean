/-
This file gives the 64-bit interchange encoding of doubles.
-/

import CourseAdvisor.Double.Basic

namespace CourseAdvisor

/-- The exponent field counts binades above the least one,
and the significand field leaves out the leading bit. -/
def Magnitude.encoding (magnitude : Magnitude) : Nat :=
  let shift := magnitude.units.log2 - 52
  if magnitude.units < 0x10000000000000 then magnitude.units
  else shift * 0x10000000000000 + magnitude.units / Nat.pow 2 shift

/-- Values that are not numbers have no encoding of their own. -/
def Double.encoding? : Double → Option UInt64
  | .notNumber => none
  | .infinite negative => some (signBit negative + 0x7ff0000000000000)
  | .finite negative magnitude => some (signBit negative + magnitude.encoding.toUInt64)
where
  signBit (negative : Bool) : UInt64 := if negative then 0x8000000000000000 else 0

end CourseAdvisor
