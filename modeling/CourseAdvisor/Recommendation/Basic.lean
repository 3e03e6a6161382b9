/-
This file defines recommendations and their JSON form.
-/

import CourseAdvisor.Catalog.Course

namespace CourseAdvisor

/-- A recommendation names a course and says why it is suggested. -/
structure Recommendation where
  courseId : CourseId
  title : String
  reason : String
  deriving DecidableEq

namespace Recommendation

def forCourse (course : Course) (reason : String) : Recommendation :=
  ⟨course.id, course.title, reason⟩

open Json in
/-- This is how recommendations are read. -/
def format : RecordFormat Recommendation where
  name := "Recommendation"
  blank := ⟨⟨""⟩, "", ""⟩
  fields := [
    .required "courseId" readText fun text recommendation =>
      { recommendation with courseId := ⟨text⟩ },
    .required "title" readText fun title recommendation => { recommendation with title },
    .required "reason" readText fun reason recommendation => { recommendation with reason }]

def toJson (recommendation : Recommendation) : Json :=
  .object [("courseId", .text recommendation.courseId.text),
    ("title", .text recommendation.title), ("reason", .text recommendation.reason)]

end Recommendation

end CourseAdvisor
