/-
This file defines what is recorded about learners, and its JSON form.
-/

import CourseAdvisor.Catalog.Course

namespace CourseAdvisor

/-- This identifies a learner. -/
structure LearnerId where
  text : String
  deriving DecidableEq

/-- Ids are ordered as their texts are. -/
instance : LE LearnerId := ⟨fun left right => left.text ≤ right.text⟩

instance (left right : LearnerId) : Decidable (left ≤ right) :=
  inferInstanceAs (Decidable (left.text ≤ right.text))

/-- An enrollment is in progress until it is completed. -/
structure Enrollment where
  studentId : LearnerId
  courseId : CourseId
  completed : Bool
  deriving DecidableEq

/-- This is one assessment of a learner in a skill. -/
structure ChallengeResult where
  userId : LearnerId
  score : Double
  skill : String
  deriving DecidableEq

namespace Enrollment

open Json in
/-- This is how enrollments are read. -/
def format : RecordFormat Enrollment where
  name := "Enrollment"
  blank := ⟨⟨""⟩, ⟨""⟩, false⟩
  fields := [
    .required "studentId" readText fun text enrollment => { enrollment with studentId := ⟨text⟩ },
    .required "courseId" readText fun text enrollment => { enrollment with courseId := ⟨text⟩ },
    .optional "completed" readBoolean fun completed enrollment => { enrollment with completed }]

def toJson (enrollment : Enrollment) : Json :=
  .object [("studentId", .text enrollment.studentId.text),
    ("courseId", .text enrollment.courseId.text), ("completed", .boolean enrollment.completed)]

end Enrollment

namespace ChallengeResult

open Json in
/-- This is how assessment results are read. -/
def format : RecordFormat ChallengeResult where
  name := "ChallengeResult"
  blank := ⟨⟨""⟩, .zero, ""⟩
  fields := [
    .required "userId" readText fun text result => { result with userId := ⟨text⟩ },
    .required "score" readNumber fun score result => { result with score },
    .required "skill" readText fun skill result => { result with skill }]

def toJson (result : ChallengeResult) : Json :=
  .object [("userId", .text result.userId.text), ("score", .number result.score),
    ("skill", .text result.skill)]

end ChallengeResult

end CourseAdvisor
