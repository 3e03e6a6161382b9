/-
This file defines snapshots of catalog and learner data, and their JSON form.
-/

import CourseAdvisor.Learner.History

namespace CourseAdvisor

/-- A snapshot holds everything that is known at one moment. -/
structure Snapshot where
  courses : List Course
  enrollments : List Enrollment
  challengeResults : List ChallengeResult
  deriving DecidableEq

namespace Snapshot

def empty : Snapshot := ⟨[], [], []⟩

open Json in
/-- This is how snapshots are read. -/
def format : RecordFormat Snapshot where
  name := "Snapshot"
  blank := empty
  fields := [
    .optional "courses" (readList Course.format.read) fun courses snapshot =>
      { snapshot with courses },
    .optional "enrollments" (readList Enrollment.format.read) fun enrollments snapshot =>
      { snapshot with enrollments },
    .optional "challengeResults" (readList ChallengeResult.format.read)
      fun challengeResults snapshot => { snapshot with challengeResults }]

def toJson (snapshot : Snapshot) : Json :=
  .object [("courses", .list (snapshot.courses.map Course.toJson)),
    ("enrollments", .list (snapshot.enrollments.map Enrollment.toJson)),
    ("challengeResults", .list (snapshot.challengeResults.map ChallengeResult.toJson))]

end Snapshot

end CourseAdvisor
