/-
This file defines the courses of the catalog and their JSON form.
-/

import CourseAdvisor.Catalog.Level
import CourseAdvisor.Json.Printer
import CourseAdvisor.Json.Record

namespace CourseAdvisor

/-- This identifies a course. -/
structure CourseId where
  text : String
  deriving DecidableEq

/-- Ids are ordered as their texts are. -/
instance : LE CourseId := ⟨fun left right => left.text ≤ right.text⟩

instance (left right : CourseId) : Decidable (left ≤ right) :=
  inferInstanceAs (Decidable (left.text ≤ right.text))

/-- A prerequisite may point at a course that the catalog does not have.
A remedial course names the skill that it strengthens. -/
structure Course where
  id : CourseId
  title : String
  level : Level
  prerequisite : Option CourseId
  isPublished : Bool
  isRemedial : Bool
  skill : Option String
  deriving DecidableEq

namespace Course

/-- A new course is published, is not remedial and has no prerequisite. -/
def new (id : CourseId) (title : String) (level : Level) : Course where
  id := id
  title := title
  level := level
  prerequisite := none
  isPublished := true
  isRemedial := false
  skill := none

def withPrerequisite (course : Course) (prerequisite : CourseId) : Course :=
  { course with prerequisite := some prerequisite }

def remedialFor (course : Course) (skill : String) : Course :=
  { course with isRemedial := true, skill := some skill }

def unpublished (course : Course) : Course := { course with isPublished := false }

open Json in
/-- This is how courses are read. -/
def format : RecordFormat Course where
  name := "Course"
  blank := new ⟨""⟩ "" (.other "")
  fields := [
    .required "id" readText fun text course => { course with id := ⟨text⟩ },
    .required "title" readText fun title course => { course with title },
    .required "level" readText fun name course => { course with level := .ofString name },
    .optional "prerequisite" (readOptional readText) fun text course =>
      { course with prerequisite := text.map CourseId.mk },
    .optional "isPublished" readBoolean fun isPublished course => { course with isPublished },
    .optional "isRemedial" readBoolean fun isRemedial course => { course with isRemedial },
    .optional "skill" (readOptional readText) fun skill course => { course with skill }]

/-- An absent prerequisite or skill is left out. -/
def toJson (course : Course) : Json :=
  .object ([("id", .text course.id.text), ("title", .text course.title),
      ("level", .text course.level.toString)] ++
    (course.prerequisite.map fun id => ("prerequisite", .text id.text)).toList ++
    [("isPublished", .boolean course.isPublished), ("isRemedial", .boolean course.isRemedial)] ++
    (course.skill.map fun skill => ("skill", .text skill)).toList)

end Course

end CourseAdvisor
