/-
This file proves that the records of a snapshot are read from what they are written as.
-/

import CourseAdvisor.Learner.History
import CourseAdvisor.Proofs.Json.Members

namespace CourseAdvisor

open Json RecordFormat

/-- A level is canonical when it is read from the name that it is written as. -/
def Level.Canonical (level : Level) : Prop := Level.ofString level.toString = level

/-- Every level that is read from a name is canonical. -/
theorem Level.canonical_ofString (name : String) : (Level.ofString name).Canonical := by
  unfold Canonical
  fun_cases ofString name with
  | case1 letters isBeginner => decide
  | case2 letters _ isIntermediate => decide
  | case3 letters _ _ isAdvanced => decide
  | case4 letters notBeginner notIntermediate notAdvanced =>
      rw [toString, ofString, if_neg notBeginner, if_neg notIntermediate, if_neg notAdvanced]

namespace Course

/-- A course with a canonical level is read from what it is written as; what is left out of its
object has the default of a blank course. -/
theorem reads {course : Course} (canonical : course.level.Canonical) :
    Reads format.read course.toJson.tokens course := by
  have names : List.Forall₂ format.ReadsMember
      [("id", (Json.text course.id.text).tokens), ("title", (Json.text course.title).tokens),
        ("level", (Json.text course.level.toString).tokens)] _ :=
    .cons (readsMember_required rfl (.text _)) <|
      .cons (readsMember_required rfl (.text _)) <|
        .cons (readsMember_required rfl (.text _)) .nil
  have flags : List.Forall₂ format.ReadsMember
      [("isPublished", (Json.boolean course.isPublished).tokens),
        ("isRemedial", (Json.boolean course.isRemedial).tokens)] _ :=
    .cons (readsMember_optional rfl (.boolean _)) <|
      .cons (readsMember_optional rfl (.boolean _)) .nil
  have prerequisite (id : CourseId) :
      format.ReadsMember ("prerequisite", (Json.text id.text).tokens) _ :=
    readsMember_optional rfl (.optional (.text _) ⟨_, rfl, Token.noConfusion⟩)
  have skill (skill : String) : format.ReadsMember ("skill", (Json.text skill).tokens) _ :=
    readsMember_optional rfl (.optional (.text _) ⟨_, rfl, Token.noConfusion⟩)
  have read := Reads.object
    (List.rel_append (List.rel_append (List.rel_append names
      (readsMembers_option prerequisite course.prerequisite)) flags)
      (readsMembers_option skill course.skill))
    (.filter _ (by cases course.prerequisite <;> cases course.skill <;> simp))
    (by simp [format, Field.required, Field.optional])
  unfold Level.Canonical at canonical
  obtain ⟨id, title, level, prerequisite, isPublished, isRemedial, skill⟩ := course
  cases prerequisite <;> cases skill <;>
    · simp only [revised, canonical] at read
      exact read

end Course

namespace Enrollment

theorem reads (enrollment : Enrollment) :
    Reads format.read enrollment.toJson.tokens enrollment := by
  have members : List.Forall₂ format.ReadsMember
      [("studentId", (Json.text enrollment.studentId.text).tokens),
        ("courseId", (Json.text enrollment.courseId.text).tokens),
        ("completed", (Json.boolean enrollment.completed).tokens)] _ :=
    .cons (readsMember_required rfl (.text _)) <|
      .cons (readsMember_required rfl (.text _)) <|
        .cons (readsMember_optional rfl (.boolean _)) .nil
  exact .object members (.filter _ (by simp)) (by simp [format, Field.required, Field.optional])

end Enrollment

namespace ChallengeResult

/-- A result is read from what it is written as when its score is. -/
theorem reads {result : ChallengeResult}
    (score : decode readNumber (result.score.text .interchange) = .ok result.score) :
    Reads format.read result.toJson.tokens result := by
  have members : List.Forall₂ format.ReadsMember
      [("userId", (Json.text result.userId.text).tokens),
        ("score", (Json.number result.score).tokens),
        ("skill", (Json.text result.skill).tokens)] _ :=
    .cons (readsMember_required rfl (.text _)) <|
      .cons (readsMember_required rfl (.number score)) <|
        .cons (readsMember_required rfl (.text _)) .nil
  exact .object members (.filter _ (by simp)) (by simp [format, Field.required])

end ChallengeResult

end CourseAdvisor
