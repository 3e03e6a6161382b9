/-
This file defines the thresholds of the standard rules and their JSON form.
-/

import CourseAdvisor.Double.Rounding
import CourseAdvisor.Json.Printer
import CourseAdvisor.Json.Record

namespace CourseAdvisor

/-- A score below the first threshold is weak.
A share of beginner courses from the second threshold on opens the intermediate path. -/
structure Thresholds where
  weakScore : Double
  beginnerRatio : Double
  deriving DecidableEq

namespace Thresholds

/-- The default is 50 for scores and four fifths for the share. -/
def standard : Thresholds := ⟨.ofNat 50, .ofRatio false 4 5 (by decide)⟩

instance : Inhabited Thresholds := ⟨standard⟩

open Json in
/-- This is how thresholds are read. -/
def format : RecordFormat Thresholds where
  name := "EngineConfig"
  blank := standard
  fields := [
    .optional "weak_score_threshold" readNumber fun weakScore thresholds =>
      { thresholds with weakScore },
    .optional "beginner_ratio_threshold" readNumber fun beginnerRatio thresholds =>
      { thresholds with beginnerRatio }]

def toJson (thresholds : Thresholds) : Json :=
  .object [("weak_score_threshold", .number thresholds.weakScore),
    ("beginner_ratio_threshold", .number thresholds.beginnerRatio)]

end Thresholds

end CourseAdvisor
