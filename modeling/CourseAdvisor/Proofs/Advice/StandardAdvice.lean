/-
This file proves that the standard rules give exactly the advice of the reference.
-/

import CourseAdvisor.Proofs.Advice.Advising
import CourseAdvisor.Proofs.Advice.Resolution
import CourseAdvisor.Proofs.Advice.Suggestions
import CourseAdvisor.Proofs.Snapshot.Validity

namespace CourseAdvisor

variable {snapshot : Snapshot} (learner : LearnerId) (thresholds : Thresholds)

/-- With distinct ids, a completed enrollment stands for the only published course with its id. -/
theorem Snapshot.completions_eq (valid : snapshot.defect? = none) :
    snapshot.completions learner =
      Context.resolvedCourses (snapshot.completedEnrollments learner)
        snapshot.publishedCourses := by
  have distinct := Snapshot.publishedIds_nodup valid
  rw [completions, Context.resolvedCourses_eq, completedEnrollments, List.filter_filter,
    publishedCourses]
  congr 1
  · funext enrollment
    cases found : (snapshot.courses.filter (·.isPublished)).find?
        fun course => course.id == enrollment.courseId with
    | none =>
        symm
        rw [← Option.not_isSome_iff_eq_none, Context.lastPublished?_isSome_iff]
        rintro ⟨course, member, _, sameId⟩
        exact List.find?_eq_none.mp found course member (beq_iff_eq.mpr sameId)
    | some course =>
        have member := List.mem_of_find?_eq_some found
        have sameId := List.find?_some found
        rw [beq_iff_eq] at sameId
        rw [← sameId, Context.lastPublished?_of_distinct distinct member
          (List.mem_filter.mp member).2]
  · apply List.filter_congr
    intro enrollment _
    cases enrollment.completed <;> simp

/-- A snapshot that passes its checks gives every learner a sound standing. -/
theorem Snapshot.standing_sound (valid : snapshot.defect? = none) :
    (snapshot.standing learner thresholds).Sound where
  distinct := Snapshot.publishedIds_nodup valid
  known done member := by
    rw [standing, Snapshot.completions_eq learner valid] at member
    exact (Context.mem_resolvedCourses member).1

/-- This is what the rules see of a learner in a snapshot. -/
def Snapshot.view (snapshot : Snapshot) (learner : LearnerId) : Context :=
  .ofReads (snapshot.completedEnrollments learner) snapshot.publishedCourses
    (snapshot.resultsOf learner)

/-- Advice from a snapshot is what the rules propose for that, if there is a history. -/
theorem Advisor.recommend_view (snapshot : Snapshot) (rules : RuleSet) :
    (recommend ⟨snapshot.store, rules⟩ learner).value =
      .ok (if (snapshot.view learner).hasHistory then
        merge (rules.proposals (snapshot.view learner)) else []) :=
  recommend_value (snapshot.store_context learner) rules

theorem Snapshot.view_completedCourses (valid : snapshot.defect? = none) :
    (snapshot.view learner).completedCourses = snapshot.completions learner :=
  (Snapshot.completions_eq learner valid).symm

theorem Snapshot.view_allCourses :
    (snapshot.view learner).allCourses = snapshot.publishedCourses := by
  simp [view, Context.ofReads, Context.new, publishedCourses]

theorem Rule.sequence_view (valid : snapshot.defect? = none) :
    nextCourseSequence.candidates (snapshot.view learner) =
      (snapshot.standing learner thresholds).sequence := by
  simp only [nextCourseSequence, Snapshot.view_completedCourses learner valid,
    Snapshot.view_allCourses]
  rfl

theorem Rule.remediation_view :
    (lowQuizScoreRemedial thresholds.weakScore).candidates (snapshot.view learner) =
      (snapshot.standing learner thresholds).remediation := by
  have remedy (skill : String) :
      (snapshot.view learner).remedialCourses.find? (fun course => course.skill == some skill) =
        (snapshot.standing learner thresholds).remedy? skill := by
    simp only [Snapshot.view, Context.ofReads, Context.new, Snapshot.publishedCourses,
      List.filter_filter, Bool.and_self, List.find?_filter, Standing.remedy?, Snapshot.standing]
    congr 1
    funext course
    cases course.isPublished <;> cases course.isRemedial <;> simp
  have weak : ((snapshot.view learner).quizResults.filter fun result =>
      decide (result.score < thresholds.weakScore)).map (·.skill) =
        (snapshot.standing learner thresholds).weakSkills := by
    simp [Snapshot.view, Context.ofReads, Context.new, Snapshot.resultsOf, Snapshot.standing,
      Bool.and_comm]
  rw [Standing.remediation, ← weak, List.filterMap_map]
  simp only [lowQuizScoreRemedial, remedy, Function.comp_def]

theorem Rule.progression_view (valid : snapshot.defect? = none) :
    (beginnerToIntermediate thresholds.beginnerRatio).candidates (snapshot.view learner) =
      (snapshot.standing learner thresholds).progression := by
  rw [progression_candidates, Snapshot.view_completedCourses learner valid,
    Snapshot.view_allCourses, Standing.progression, Standing.intermediates, apply_ite (List.map _)]
  rfl

/-- The standard rules propose the candidates of the standing. -/
theorem RuleSet.standard_proposals (valid : snapshot.defect? = none) :
    (standard thresholds).proposals (snapshot.view learner) =
      (snapshot.standing learner thresholds).candidates := by
  rw [standard_candidates, Rule.sequence_view learner thresholds valid, Rule.remediation_view,
    Rule.progression_view learner thresholds valid, Standing.candidates]

/-- For every snapshot that passes its checks, the standard rules advise what the reference
advises. -/
theorem Advisor.recommend_standard (valid : snapshot.defect? = none) :
    (recommend ⟨snapshot.store, .standard thresholds⟩ learner).value =
      .ok (snapshot.standing learner thresholds).advice := by
  rw [recommend_value (snapshot.store_context learner)]
  change Except.ok (if (snapshot.view learner).hasHistory then
    merge ((RuleSet.standard thresholds).proposals (snapshot.view learner)) else []) = _
  rw [RuleSet.standard_proposals learner thresholds valid,
    (Snapshot.standing_sound learner thresholds valid).merge_candidates, Standing.advice,
    Context.hasHistory, Snapshot.view_completedCourses learner valid]
  cases history : snapshot.completions learner with
  | nil => simp [Snapshot.standing, history]
  | cons done rest => simp [Snapshot.standing, history]

/-- One course of this snapshot is reached by all three rules, one is completed twice, one skill
is weak twice, and one successor is not published. -/
def overlappingSnapshot : Snapshot where
  courses := [.new ⟨"A"⟩ "Intro" .beginner,
    (Course.new ⟨"N"⟩ "Next Steps" .advanced).withPrerequisite ⟨"A"⟩,
    ((Course.new ⟨"M"⟩ "Multi" .intermediate).withPrerequisite ⟨"A"⟩).remedialFor "Rust",
    .new ⟨"I"⟩ "Intermediate Only" .intermediate,
    ((Course.new ⟨"X"⟩ "Retired" .advanced).withPrerequisite ⟨"A"⟩).unpublished,
    (Course.new ⟨"G"⟩ "Go Refresher" .beginner).remedialFor "Go"]
  enrollments := [⟨⟨"u1"⟩, ⟨"A"⟩, true⟩, ⟨⟨"u2"⟩, ⟨"I"⟩, true⟩, ⟨⟨"u1"⟩, ⟨"A"⟩, true⟩,
    ⟨⟨"u1"⟩, ⟨"X"⟩, true⟩]
  challengeResults := [⟨⟨"u1"⟩, .ofNat 12, "Rust"⟩, ⟨⟨"u1"⟩, .ofNat 20, "Rust"⟩,
    ⟨⟨"u1"⟩, .ofNat 40, "Go"⟩, ⟨⟨"u1"⟩, .ofNat 50, "Haskell"⟩]

/-- The overlaps collapse to four entries in order, each with its last reason. -/
theorem overlappingSnapshot_advice :
    overlappingSnapshot.defect? = none ∧
      (Advisor.recommend ⟨overlappingSnapshot.store, .standard .standard⟩ ⟨"u1"⟩).value = .ok [
        ⟨⟨"N"⟩, "Next Steps", "Based on your completion of Intro"⟩,
        ⟨⟨"M"⟩, "Multi", "You are ready to move to an intermediate learning path"⟩,
        ⟨⟨"G"⟩, "Go Refresher", "Recommended to strengthen your understanding of Go"⟩,
        ⟨⟨"I"⟩, "Intermediate Only", "You are ready to move to an intermediate learning path"⟩] := by
  have valid : overlappingSnapshot.defect? = none := by decide +kernel
  refine ⟨valid, (Advisor.recommend_standard ⟨"u1"⟩ .standard valid).trans ?_⟩
  exact congrArg Except.ok (by decide +kernel)

end CourseAdvisor
