/-
This file checks snapshots before they are served.
-/

import CourseAdvisor.Snapshot.Basic

namespace CourseAdvisor

/-- A snapshot is refused for a repeated course id or for a score out of range.
Other stores may report defects of their own. -/
inductive Defect where
  | duplicateCourse (id : CourseId)
  | scoreOutOfRange (result : ChallengeResult)
  | reported (report : String)
  deriving DecidableEq

def Defect.message : Defect → String
  | .duplicateCourse id => "duplicate course id: " ++ id.text
  | .scoreOutOfRange result =>
      "score " ++ result.score.text .plain ++ " for learner " ++ result.userId.text ++
        " on " ++ result.skill ++ " is outside 0-100"
  | .reported report => report

/-- A score in range is a number from 0 to 100. -/
def ChallengeResult.InRange (result : ChallengeResult) : Prop :=
  Double.zero ≤ result.score ∧ result.score ≤ Double.ofNat 100

instance (result : ChallengeResult) : Decidable result.InRange :=
  inferInstanceAs (Decidable (_ ∧ _))

namespace Snapshot

/-- This is the first id that stands again after it has been seen. -/
def repeatedId? (seen : List CourseId) : List Course → Option CourseId
  | [] => none
  | course :: rest =>
      if course.id ∈ seen then some course.id else repeatedId? (course.id :: seen) rest

/-- Ids are checked before scores, and each check stops at the first offender. -/
def defect? (snapshot : Snapshot) : Option Defect :=
  match repeatedId? [] snapshot.courses with
  | some id => some (.duplicateCourse id)
  | none =>
      (snapshot.challengeResults.find? fun result => decide (¬ result.InRange)).map
        Defect.scoreOutOfRange

end Snapshot

end CourseAdvisor
