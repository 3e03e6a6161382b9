/-
This file merges candidates into one recommendation for each course.
-/

import CourseAdvisor.Recommendation.Basic

namespace CourseAdvisor

/-- The slots tell where the entry of each course stands in the merged list. -/
structure Merging where
  slots : List (CourseId × Nat)
  merged : List Recommendation

namespace Merging

def empty : Merging := ⟨[], []⟩

/-- A course keeps its place while a later candidate replaces its entry. -/
def add (merging : Merging) (candidate : Recommendation) : Merging :=
  match merging.slots.lookup candidate.courseId with
  | some place => { merging with merged := merging.merged.set place candidate }
  | none =>
      { slots := (candidate.courseId, merging.merged.length) :: merging.slots
        merged := merging.merged ++ [candidate] }

end Merging

/-- A course stands where it was first proposed, as it was last proposed. -/
def merge (candidates : List Recommendation) : List Recommendation :=
  (candidates.foldl Merging.add .empty).merged

end CourseAdvisor
