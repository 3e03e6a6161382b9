/-
This file proves what a snapshot without defects is like.
-/

import Mathlib.Data.List.Nodup
import CourseAdvisor.Proofs.FirstOccurrences
import CourseAdvisor.Snapshot.Validation

namespace CourseAdvisor.Snapshot

open FirstOccurrences

/-- The first repeated id is looked for among the ids alone. -/
theorem repeatedId?_eq (seen : List CourseId) (courses : List Course) :
    repeatedId? seen courses = repeated? seen (courses.map (·.id)) := by
  induction courses generalizing seen with
  | nil => rfl
  | cons course rest ih => rw [repeatedId?, List.map_cons, repeated?, ih]

/-- No id is repeated exactly when all ids are distinct. -/
theorem repeatedId?_eq_none {courses : List Course} :
    repeatedId? [] courses = none ↔ (courses.map (·.id)).Nodup := by
  rw [repeatedId?_eq, repeated?_eq_none]
  simp

/-- A snapshot passes its checks when its ids are distinct and its scores are in range. -/
theorem defect?_eq_none (snapshot : Snapshot) :
    snapshot.defect? = none ↔
      (snapshot.courses.map (·.id)).Nodup ∧
        ∀ result ∈ snapshot.challengeResults, result.InRange := by
  unfold defect?
  rw [← repeatedId?_eq_none]
  cases repeatedId? [] snapshot.courses <;> simp

/-- In a snapshot that passes its checks, published courses have distinct ids. -/
theorem publishedIds_nodup {snapshot : Snapshot} (valid : snapshot.defect? = none) :
    ((snapshot.courses.filter (·.isPublished)).map (·.id)).Nodup :=
  ((defect?_eq_none snapshot).mp valid).1.sublist (List.filter_sublist.map _)

end CourseAdvisor.Snapshot
