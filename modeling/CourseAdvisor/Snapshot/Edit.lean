/-
This file changes snapshots one record at a time.
-/

import CourseAdvisor.Snapshot.Basic

namespace CourseAdvisor.Snapshot

def withCourse (snapshot : Snapshot) (course : Course) : Snapshot :=
  { snapshot with courses := snapshot.courses ++ [course] }

def withEnrollment (snapshot : Snapshot) (enrollment : Enrollment) : Snapshot :=
  { snapshot with enrollments := snapshot.enrollments ++ [enrollment] }

def withResult (snapshot : Snapshot) (result : ChallengeResult) : Snapshot :=
  { snapshot with challengeResults := snapshot.challengeResults ++ [result] }

/-- Every course with the id is published or withdrawn. -/
def setPublished (snapshot : Snapshot) (id : CourseId) (isPublished : Bool) : Snapshot :=
  { snapshot with
    courses := snapshot.courses.map fun course =>
      if course.id = id then { course with isPublished } else course }

end CourseAdvisor.Snapshot
