/-
This file proves which courses the completed enrollments of a learner stand for.
-/

import Mathlib.Data.List.Nodup
import CourseAdvisor.Learner.Context
import CourseAdvisor.Proofs.FirstOccurrences

namespace CourseAdvisor

namespace Context

/-- This is the last published course with an id. -/
def lastPublished? (catalog : List Course) (id : CourseId) : Option Course :=
  catalog.reverse.find? fun course => course.isPublished && course.id == id

/-- The roster gives the last published course with each id. -/
theorem roster_lookup (catalog : List Course) (id : CourseId) :
    (roster catalog).lookup id = lastPublished? catalog id := by
  unfold roster lastPublished?
  induction catalog using List.reverseRecOn with
  | nil => rfl
  | append_singleton catalog course ih =>
      rw [List.foldl_append, List.foldl_cons, List.foldl_nil, List.reverse_concat,
        List.find?_cons]
      by_cases published : course.isPublished = true
      · rw [if_pos published, List.lookup_cons, ih]
        by_cases same : id = course.id
        · simp [published, same]
        · have different : (id == course.id) = false := by simpa using same
          have otherwise : (course.id == id) = false := by simpa using Ne.symm same
          simp [different, otherwise]
      · simp [published, ih]

/-- A completed enrollment stands for the last published course with its id, if there is one. -/
theorem resolvedCourses_eq (enrollments : List Enrollment) (catalog : List Course) :
    resolvedCourses enrollments catalog =
      (enrollments.filter (·.completed)).filterMap fun enrollment =>
        lastPublished? catalog enrollment.courseId := by
  unfold resolvedCourses
  simp only [roster_lookup]

/-- What is found under an id is a published course of the catalog with that id. -/
theorem lastPublished?_found {catalog : List Course} {id : CourseId} {course : Course}
    (found : lastPublished? catalog id = some course) :
    course ∈ catalog ∧ course.isPublished = true ∧ course.id = id := by
  have member := List.mem_of_find?_eq_some found
  have passed := List.find?_some found
  rw [Bool.and_eq_true, beq_iff_eq] at passed
  exact ⟨List.mem_reverse.mp member, passed⟩

/-- Something is found under the ids of published courses and under no others. -/
theorem lastPublished?_isSome_iff (catalog : List Course) (id : CourseId) :
    (lastPublished? catalog id).isSome ↔
      ∃ course ∈ catalog, course.isPublished = true ∧ course.id = id := by
  unfold lastPublished?
  rw [List.find?_isSome]
  simp only [List.mem_reverse, Bool.and_eq_true, beq_iff_eq]

/-- Courses that are not published are never found. -/
theorem lastPublished?_published (catalog : List Course) (id : CourseId) :
    lastPublished? (catalog.filter (·.isPublished)) id = lastPublished? catalog id := by
  unfold lastPublished?
  rw [← List.filter_reverse, List.find?_filter]
  congr 1
  funext course
  by_cases same : course.id = id <;> cases course.isPublished <;> simp [same]

/-- Under an id that stands once, the course that has it is found. -/
theorem lastPublished?_of_distinct {catalog : List Course}
    (distinct : (catalog.map (·.id)).Nodup) {course : Course} (member : course ∈ catalog)
    (published : course.isPublished = true) : lastPublished? catalog course.id = some course := by
  apply FirstOccurrences.find?_only (List.mem_reverse.mpr member)
  · simp [published]
  · intro other otherMember passed
    rw [Bool.and_eq_true, beq_iff_eq] at passed
    exact List.inj_on_of_nodup_map distinct (List.mem_reverse.mp otherMember) member passed.2

/-- An enrollment in a course that is not published leaves no trace in the history. -/
theorem resolvedCourses_filter_known (enrollments : List Enrollment) (catalog : List Course) :
    resolvedCourses
        (enrollments.filter fun enrollment =>
          (lastPublished? catalog enrollment.courseId).isSome) catalog =
      resolvedCourses enrollments catalog := by
  simp only [resolvedCourses_eq, List.filterMap_filter]
  congr 1
  funext enrollment
  cases found : lastPublished? catalog enrollment.courseId <;> simp

/-- A history over a catalog depends on its published courses alone. -/
theorem resolvedCourses_published (enrollments : List Enrollment) (catalog : List Course) :
    resolvedCourses enrollments (catalog.filter (·.isPublished)) =
      resolvedCourses enrollments catalog := by
  simp only [resolvedCourses_eq, lastPublished?_published]

/-- Each enrollment stands for its course wherever it is listed. -/
theorem resolvedCourses_perm {enrollments other : List Enrollment}
    (permuted : enrollments.Perm other) (catalog : List Course) :
    (resolvedCourses enrollments catalog).Perm (resolvedCourses other catalog) := by
  rw [resolvedCourses_eq, resolvedCourses_eq]
  exact (permuted.filter _).filterMap _

/-- A completed enrollment in a published course adds the course to the history. -/
theorem resolvedCourses_cons {enrollment : Enrollment} {catalog : List Course} {course : Course}
    (completed : enrollment.completed = true)
    (found : lastPublished? catalog enrollment.courseId = some course)
    (enrollments : List Enrollment) :
    resolvedCourses (enrollment :: enrollments) catalog =
      course :: resolvedCourses enrollments catalog := by
  rw [resolvedCourses_eq, resolvedCourses_eq, List.filter_cons_of_pos completed,
    List.filterMap_cons, found]

/-- The course of a history entry is a published course of the catalog. -/
theorem mem_resolvedCourses {enrollments : List Enrollment} {catalog : List Course}
    {course : Course} (member : course ∈ resolvedCourses enrollments catalog) :
    course ∈ catalog ∧ course.isPublished = true := by
  rw [resolvedCourses_eq, List.mem_filterMap] at member
  obtain ⟨_, _, found⟩ := member
  obtain ⟨inCatalog, published, _⟩ := lastPublished?_found found
  exact ⟨inCatalog, published⟩

end Context

end CourseAdvisor
