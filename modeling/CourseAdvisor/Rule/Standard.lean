/-
This file defines the three standard rules.
-/

import CourseAdvisor.Rule.Basic
import CourseAdvisor.Thresholds

namespace CourseAdvisor

namespace Rule

def sequenceReason (completed : Course) : String :=
  "Based on your completion of " ++ completed.title

/-- A completed course opens every course that has it as prerequisite. -/
def nextCourseSequence : Rule where
  name := "NEXT_COURSE_SEQUENCE"
  candidates context :=
    context.completedCourses.flatMap fun completed =>
      (context.allCourses.filter fun next => next.prerequisite == some completed.id).map
        fun next => .forCourse next (sequenceReason completed)

def remedialReason (skill : String) : String :=
  "Recommended to strengthen your understanding of " ++ skill

/-- A weak result calls for the first remedial course in its skill. -/
def lowQuizScoreRemedial (threshold : Double) : Rule where
  name := "LOW_QUIZ_SCORE_REMEDIAL"
  candidates context :=
    (context.quizResults.filter fun result => decide (result.score < threshold)).filterMap
      fun weak =>
        (context.remedialCourses.find? fun course => course.skill == some weak.skill).map
          fun course => .forCourse course (remedialReason weak.skill)

def progressionReason : String := "You are ready to move to an intermediate learning path"

/-- This is the share of beginner courses; without completed courses there is none. -/
def beginnerRatio? (context : Context) : Option Double :=
  if nonempty : 0 < context.completedCourses.length then
    let beginners := context.completedCourses.countP fun course => course.level == .beginner
    some (.ofRatio false beginners context.completedCourses.length nonempty)
  else none

/-- A share that reaches the threshold opens every intermediate course. -/
def beginnerToIntermediate (threshold : Double) : Rule where
  name := "BEGINNER_TO_INTERMEDIATE"
  candidates context :=
    if (beginnerRatio? context).any fun ratio => decide (threshold ≤ ratio) then
      (context.allCourses.filter fun course => course.level == .intermediate).map
        fun course => .forCourse course progressionReason
    else []

end Rule

/-- The standard order is sequence, remediation, progression. -/
def RuleSet.standard (thresholds : Thresholds) : RuleSet :=
  empty
    |>.withRule .nextCourseSequence
    |>.withRule (.lowQuizScoreRemedial thresholds.weakScore)
    |>.withRule (.beginnerToIntermediate thresholds.beginnerRatio)

end CourseAdvisor
