/-
This file proves that the standard threshold of the progression rule is exact: rounding lets no
history in and keeps none out.
-/

import CourseAdvisor.Proofs.Advice.Reference
import CourseAdvisor.Proofs.Double.Ordering

namespace CourseAdvisor

namespace Double

/-- This is the last double before the one nearest to four fifths. -/
def belowFourFifths : Double := .ofRatio false 7205759403792793 (2 ^ 53) (by decide)

theorem belowFourFifths_lt : belowFourFifths < .ofRatio false 4 5 (by decide) := by
  decide +kernel

/-- A share of few parts that misses four fifths is not rounded past the last double before. -/
theorem ofRatio_le_belowFourFifths {part total : Nat} (positive : 0 < total)
    (small : total ≤ 2 ^ 50) (missed : 5 * part < 4 * total) :
    ofRatio false part total positive ≤ belowFourFifths := by
  apply ofRatio_mono
  -- The share misses by at least `1 / (5 * total)`, which is more than the distance to the double.
  omega

end Double

theorem Thresholds.standard_beginnerRatio :
    standard.beginnerRatio = .ofRatio false 4 5 (by decide) := by
  rw [standard]

/-- The standard threshold decides on rounded shares as four fifths decides on exact ones. -/
theorem Thresholds.standard_le_ofRatio {part total : Nat} (positive : 0 < total)
    (small : total ≤ 2 ^ 50) :
    standard.beginnerRatio ≤ .ofRatio false part total positive ↔ 4 * total ≤ 5 * part := by
  rw [standard_beginnerRatio]
  constructor
  · intro reached
    apply Nat.le_of_not_lt
    intro missed
    have rounded := Double.ofRatio_le_belowFourFifths positive small missed
    exact Double.not_le_of_lt Double.belowFourFifths_lt (Double.le_trans reached rounded)
  · intro reached
    apply Double.ofRatio_mono
    omega

/-- Up to `2 ^ 50` completions, the standard threshold opens the intermediate courses exactly when
four fifths of the completions are at beginner level. -/
theorem Rule.standard_progression {context : Context}
    (nonempty : 1 ≤ context.completedCourses.length)
    (small : context.completedCourses.length ≤ 2 ^ 50) :
    (beginnerToIntermediate Thresholds.standard.beginnerRatio).candidates context =
      if 4 * context.completedCourses.length ≤
          5 * context.completedCourses.countP (fun course => course.level == .beginner) then
        (context.allCourses.filter fun course => course.level == .intermediate).map
          fun course => .forCourse course progressionReason
      else [] := by
  have decided : Thresholds.standard.reachedBy context.completedCourses =
      decide (4 * context.completedCourses.length ≤
        5 * context.completedCourses.countP fun course => course.level == .beginner) := by
    have positive : 0 < context.completedCourses.length := nonempty
    rw [Thresholds.reachedBy, dif_pos positive, decide_eq_decide]
    exact Thresholds.standard_le_ofRatio positive small
  rw [progression_candidates, decided]
  simp only [decide_eq_true_eq]

/-- This learner has completed two courses over and over again. -/
def longHistory (beginners others : Nat) : Context :=
  .new (.replicate beginners (.new ⟨"A"⟩ "Intro" .beginner) ++
      .replicate others (.new ⟨"B"⟩ "Expert" .advanced))
    [.new ⟨"Z"⟩ "Middle" .intermediate] []

theorem longHistory_length (beginners others : Nat) :
    (longHistory beginners others).completedCourses.length = beginners + others := by
  simp [longHistory, Context.new]

theorem longHistory_beginners (beginners others : Nat) :
    (longHistory beginners others).completedCourses.countP
      (fun course => course.level == .beginner) = beginners := by
  simp [longHistory, Context.new, Course.new, List.countP_replicate]

/-- At the largest size a fifth of a completion is missing, and one more is enough. -/
theorem longHistory_exact :
    (longHistory 900719925474099 225179981368525).completedCourses.length = 2 ^ 50 ∧
      (Rule.beginnerToIntermediate Thresholds.standard.beginnerRatio).candidates
        (longHistory 900719925474099 225179981368525) = [] ∧
      (Rule.beginnerToIntermediate Thresholds.standard.beginnerRatio).candidates
        (longHistory 900719925474100 225179981368524) =
          [⟨⟨"Z"⟩, "Middle", "You are ready to move to an intermediate learning path"⟩] := by
  have fewer := longHistory_length 900719925474099 225179981368525
  have more := longHistory_length 900719925474100 225179981368524
  refine ⟨fewer, ?_, ?_⟩
  · rw [Rule.standard_progression (by rw [fewer]; decide) (by rw [fewer]; decide), fewer,
      longHistory_beginners]
    rfl
  · rw [Rule.standard_progression (by rw [more]; decide) (by rw [more]; decide), more,
      longHistory_beginners]
    rfl

end CourseAdvisor
