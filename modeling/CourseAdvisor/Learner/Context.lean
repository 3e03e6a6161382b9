/-
This file defines what the rules see of a learner and the catalog.
-/

import CourseAdvisor.Learner.History

namespace CourseAdvisor

/-- The completed courses stand in the order of the enrollments, and the others
in the order of the catalog. -/
structure Context where
  completedCourses : List Course
  allCourses : List Course
  quizResults : List ChallengeResult
  remedialCourses : List Course
  deriving DecidableEq

namespace Context

/-- Only published courses of the catalog count. -/
def new (completed catalog : List Course) (results : List ChallengeResult) : Context where
  completedCourses := completed
  allCourses := catalog.filter (·.isPublished)
  quizResults := results
  remedialCourses := (catalog.filter (·.isPublished)).filter (·.isRemedial)

def hasHistory (context : Context) : Bool := !context.completedCourses.isEmpty

/-- A later published course takes the place of an earlier one with its id. -/
def roster (catalog : List Course) : List (CourseId × Course) :=
  catalog.foldl (fun entries course =>
    if course.isPublished then (course.id, course) :: entries else entries) []

/-- A completed enrollment in a course that is not published is no history. -/
def resolvedCourses (enrollments : List Enrollment) (catalog : List Course) : List Course :=
  let entries := roster catalog
  (enrollments.filter (·.completed)).filterMap fun enrollment =>
    entries.lookup enrollment.courseId

/-- This is the context of three lists that a store answers. -/
def ofReads (enrollments : List Enrollment) (catalog : List Course)
    (results : List ChallengeResult) : Context :=
  .new (resolvedCourses enrollments catalog) catalog results

end Context

end CourseAdvisor
