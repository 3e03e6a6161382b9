/-
This file defines the advice of the standard rules without candidates and without a merge.
-/

import CourseAdvisor.Rule.Standard
import CourseAdvisor.Store

namespace CourseAdvisor

/-- This is what the standard rules make of a learner: the published courses, those that the
learner completed, with repetitions, the skills of the weak results, with repetitions, and
whether enough of the completions are at beginner level. -/
structure Standing where
  published : List Course
  completions : List Course
  weakSkills : List String
  progresses : Bool

/-- Completed enrollments count as far as a published course has their id. -/
def Snapshot.completions (snapshot : Snapshot) (learner : LearnerId) : List Course :=
  (snapshot.enrollments.filter fun enrollment =>
      enrollment.completed && enrollment.studentId == learner).filterMap fun enrollment =>
    (snapshot.courses.filter (·.isPublished)).find? fun course => course.id == enrollment.courseId

/-- The share of beginner courses reaches the threshold; without completions there is no share. -/
def Thresholds.reachedBy (thresholds : Thresholds) (completions : List Course) : Bool :=
  if nonempty : 0 < completions.length then
    decide (thresholds.beginnerRatio ≤
      .ofRatio false (completions.countP fun course => course.level == .beginner)
        completions.length nonempty)
  else false

/-- The progression rule opens the intermediate courses when the share reaches its threshold. -/
theorem Rule.progression_candidates (thresholds : Thresholds) (context : Context) :
    (beginnerToIntermediate thresholds.beginnerRatio).candidates context =
      if thresholds.reachedBy context.completedCourses then
        (context.allCourses.filter fun course => course.level == .intermediate).map
          fun course => .forCourse course progressionReason
      else [] := by
  have reached : ((beginnerRatio? context).any fun ratio =>
      decide (thresholds.beginnerRatio ≤ ratio)) =
        thresholds.reachedBy context.completedCourses := by
    unfold beginnerRatio? Thresholds.reachedBy
    split <;> rfl
  simp only [beginnerToIntermediate, reached]

/-- This is the standing of a learner in a snapshot. -/
def Snapshot.standing (snapshot : Snapshot) (learner : LearnerId) (thresholds : Thresholds) :
    Standing where
  published := snapshot.courses.filter (·.isPublished)
  completions := snapshot.completions learner
  weakSkills := (snapshot.challengeResults.filter fun result =>
    result.userId == learner && decide (result.score < thresholds.weakScore)).map (·.skill)
  progresses := thresholds.reachedBy (snapshot.completions learner)

namespace Standing

variable (standing : Standing)

/-- For each completed course, in the order of first completion, come the courses that have it
as prerequisite, in the order of the catalog. -/
def successors : List Course :=
  (standing.completions.map (·.id)).eraseDups.flatMap fun id =>
    standing.published.filter fun course => course.prerequisite == some id

/-- This is the first remedial course in a skill. -/
def remedy? (skill : String) : Option Course :=
  standing.published.find? fun course => course.isRemedial && course.skill == some skill

/-- For each weak skill, in the order of the first weak result, comes its remedy, unless it is
a successor. -/
def remedies : List Course :=
  (standing.weakSkills.eraseDups.filterMap standing.remedy?).filter fun course =>
    decide (course ∉ standing.successors)

/-- Then come the intermediate courses that are neither, when the learner progresses. -/
def openings : List Course :=
  if standing.progresses then
    standing.published.filter fun course =>
      course.level == .intermediate &&
        decide (course ∉ standing.successors ∧ course ∉ standing.remedies)
  else []

def suggestions : List Course := standing.successors ++ standing.remedies ++ standing.openings

/-- Progression is the first reason, a weak skill the second and a completion the third. -/
def reason (course : Course) : String :=
  if standing.progresses && course.level == .intermediate then
    "You are ready to move to an intermediate learning path"
  else
    match standing.weakSkills.find? fun skill => standing.remedy? skill == some course with
    | some skill => "Recommended to strengthen your understanding of " ++ skill
    | none =>
        match standing.completions.find? fun done => course.prerequisite == some done.id with
        | some done => "Based on your completion of " ++ done.title
        | none => ""

/-- Every suggestion comes with its own title and its reason; without completions there is no
suggestion at all. -/
def advice : List Recommendation :=
  if standing.completions = [] then []
  else standing.suggestions.map fun course => ⟨course.id, course.title, standing.reason course⟩

end Standing

end CourseAdvisor
