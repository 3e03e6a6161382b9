/-
This file defines the difficulty levels of courses and how their names are read.
-/

namespace CourseAdvisor

/-- A catalog may name levels beyond the three known ones; those are kept as they are. -/
inductive Level where
  | beginner
  | intermediate
  | advanced
  | other (name : String)
  deriving DecidableEq

namespace Level

/-- This is the lower case of a character, as far as it can spell the name of a level.
Outside ASCII only two characters have lower-case letters of ASCII in their lower case:
the dotted capital I, which also leaves a dot, and the Kelvin sign. -/
def lowered (char : Char) : List Char :=
  if char = '\u0130' then ['i', '\u0307']
  else if char = '\u212a' then ['k']
  else [char.toLower]

/-- A known name may be written in any letter case. -/
def ofString (name : String) : Level :=
  let letters := name.toList.flatMap lowered
  if letters = "beginner".toList then .beginner
  else if letters = "intermediate".toList then .intermediate
  else if letters = "advanced".toList then .advanced
  else .other name

/-- A known name is written in lower case. -/
def toString : Level → String
  | .beginner => "beginner"
  | .intermediate => "intermediate"
  | .advanced => "advanced"
  | .other name => name

instance : ToString Level := ⟨toString⟩

/-- A level that is given up for its name gives away the name that it holds. -/
def intoString : Level → String
  | .other name => name
  | known => known.toString

end Level

end CourseAdvisor
