/-
This file proves that every recommendation has its grounds in what was read, whatever that is.
-/

import CourseAdvisor.Proofs.Advice.Advising
import CourseAdvisor.Proofs.Advice.Merging
import CourseAdvisor.Proofs.Advice.Reference
import CourseAdvisor.Proofs.Advice.Resolution

namespace CourseAdvisor

namespace Reason

/-- A text begins with the first letter of what it starts with. -/
theorem head_append {start : String} {letter : Char} (begins : start.toList.head? = some letter)
    (rest : String) : (start ++ rest).toList.head? = some letter := by
  rw [String.toList_append, List.head?_append, begins]
  rfl

theorem completion_head (title : String) :
    ("Based on your completion of " ++ title).toList.head? = some 'B' :=
  head_append (by decide) title

theorem weakness_head (skill : String) :
    ("Recommended to strengthen your understanding of " ++ skill).toList.head? = some 'R' :=
  head_append (by decide) skill

theorem progress_head :
    "You are ready to move to an intermediate learning path".toList.head? = some 'Y' := by
  decide

/-- Texts that begin with different letters are different. -/
theorem ne_of_head {left right : String} {first second : Char}
    (isFirst : left.toList.head? = some first) (isSecond : right.toList.head? = some second)
    (different : first ≠ second) : left ≠ right := by
  rintro rfl
  exact different (Option.some.inj (isFirst.symm.trans isSecond))

theorem completion_ne_weakness (title skill : String) :
    "Based on your completion of " ++ title ≠
      "Recommended to strengthen your understanding of " ++ skill :=
  ne_of_head (completion_head title) (weakness_head skill) (by decide)

theorem completion_ne_progress (title : String) :
    "Based on your completion of " ++ title ≠
      "You are ready to move to an intermediate learning path" :=
  ne_of_head (completion_head title) progress_head (by decide)

theorem weakness_ne_progress (skill : String) :
    "Recommended to strengthen your understanding of " ++ skill ≠
      "You are ready to move to an intermediate learning path" :=
  ne_of_head (weakness_head skill) progress_head (by decide)

end Reason

/-- These are the three lists that the reads of a store answer. Nothing is known of them. -/
structure Answers where
  enrollments : List Enrollment
  catalog : List Course
  results : List ChallengeResult

namespace Answers

/-- A store answers a learner with these lists. -/
structure Of (answers : Answers) (store : Store) (learner : LearnerId) : Prop where
  enrollments : store.enrollments learner = .ok answers.enrollments
  catalog : store.courses = .ok answers.catalog
  results : store.results learner = .ok answers.results

variable (answers : Answers)

/-- Each completed enrollment stands for the last published course with its id. -/
def history : List Course :=
  (answers.enrollments.filter (·.completed)).filterMap fun enrollment =>
    answers.catalog.reverse.find? fun course =>
      course.isPublished && course.id == enrollment.courseId

/-- A course backs a reason when it has everything that the text of the reason says. -/
structure Backs (thresholds : Thresholds) (course : Course) (reason : String) : Prop where
  isReason :
    (∃ title, reason = "Based on your completion of " ++ title) ∨
      (∃ skill, reason = "Recommended to strengthen your understanding of " ++ skill) ∨
      reason = "You are ready to move to an intermediate learning path"
  sequence : ∀ title, reason = "Based on your completion of " ++ title →
    ∃ done ∈ answers.history, done.title = title ∧ course.prerequisite = some done.id
  remediation : ∀ skill, reason = "Recommended to strengthen your understanding of " ++ skill →
    course.isRemedial = true ∧ course.skill = some skill ∧
      ∃ result ∈ answers.results, result.skill = skill ∧ result.score < thresholds.weakScore
  progression : reason = "You are ready to move to an intermediate learning path" →
    course.level = .intermediate ∧ thresholds.reachedBy answers.history = true

/-- An entry is grounded when it tells a published course that backs its reason. -/
def Grounds (thresholds : Thresholds) (entry : Recommendation) : Prop :=
  ∃ course ∈ answers.catalog, course.isPublished = true ∧ entry.courseId = course.id ∧
    entry.title = course.title ∧ answers.Backs thresholds course entry.reason

/-- This is what the rules see of the answers. -/
def context : Context := .ofReads answers.enrollments answers.catalog answers.results

theorem context_completedCourses : answers.context.completedCourses = answers.history :=
  Context.resolvedCourses_eq answers.enrollments answers.catalog

variable {answers} {thresholds : Thresholds} {course : Course}

theorem mem_context_allCourses :
    course ∈ answers.context.allCourses ↔ course ∈ answers.catalog ∧ course.isPublished = true := by
  simp [context, Context.ofReads, Context.new]

theorem mem_context_remedialCourses :
    course ∈ answers.context.remedialCourses ↔
      course ∈ answers.catalog ∧ course.isPublished = true ∧ course.isRemedial = true := by
  simp [context, Context.ofReads, Context.new, and_comm]

/-- A completion backs the reason that it gives to the courses that have it as prerequisite. -/
theorem sequenceReason_backs {done : Course} (completed : done ∈ answers.history)
    (opened : course.prerequisite = some done.id) :
    answers.Backs thresholds course (Rule.sequenceReason done) where
  isReason := .inl ⟨done.title, rfl⟩
  sequence _ same := ⟨done, completed, (String.append_right_inj _).mp same, opened⟩
  remediation skill same := absurd same (Reason.completion_ne_weakness done.title skill)
  progression same := absurd same (Reason.completion_ne_progress done.title)

/-- A weak result backs the reason that it gives to remedial courses in its skill. -/
theorem remedialReason_backs {weak : ChallengeResult} (isResult : weak ∈ answers.results)
    (below : weak.score < thresholds.weakScore) (isRemedial : course.isRemedial = true)
    (strengthens : course.skill = some weak.skill) :
    answers.Backs thresholds course (Rule.remedialReason weak.skill) where
  isReason := .inr (.inl ⟨weak.skill, rfl⟩)
  sequence title same := absurd same.symm (Reason.completion_ne_weakness title weak.skill)
  remediation _ same := by
    obtain rfl := (String.append_right_inj _).mp same
    exact ⟨isRemedial, strengthens, weak, isResult, rfl, below⟩
  progression same := absurd same (Reason.weakness_ne_progress weak.skill)

/-- A sufficient share of beginner courses backs the reason of every intermediate course. -/
theorem progressionReason_backs (intermediate : course.level = .intermediate)
    (reached : thresholds.reachedBy answers.history = true) :
    answers.Backs thresholds course Rule.progressionReason where
  isReason := .inr (.inr rfl)
  sequence title same := absurd same.symm (Reason.completion_ne_progress title)
  remediation skill same := absurd same.symm (Reason.weakness_ne_progress skill)
  progression _ := ⟨intermediate, reached⟩

/-- What the sequence rule proposes is grounded. -/
theorem sequence_grounds {entry : Recommendation}
    (proposed : entry ∈ Rule.nextCourseSequence.candidates answers.context) :
    answers.Grounds thresholds entry := by
  obtain ⟨done, completed, opened⟩ := List.mem_flatMap.mp proposed
  obtain ⟨next, isNext, rfl⟩ := List.mem_map.mp opened
  rw [List.mem_filter, mem_context_allCourses, beq_iff_eq] at isNext
  rw [context_completedCourses] at completed
  obtain ⟨⟨inCatalog, published⟩, prerequisite⟩ := isNext
  exact ⟨next, inCatalog, published, rfl, rfl, sequenceReason_backs completed prerequisite⟩

/-- What the remedial rule proposes is grounded. -/
theorem remediation_grounds {entry : Recommendation}
    (proposed : entry ∈
      (Rule.lowQuizScoreRemedial thresholds.weakScore).candidates answers.context) :
    answers.Grounds thresholds entry := by
  obtain ⟨weak, isWeak, found⟩ := List.mem_filterMap.mp proposed
  obtain ⟨remedy, first, rfl⟩ := Option.map_eq_some_iff.mp found
  rw [List.mem_filter, decide_eq_true_iff] at isWeak
  obtain ⟨inCatalog, published, isRemedial⟩ :=
    mem_context_remedialCourses.mp (List.mem_of_find?_eq_some first)
  have strengthens := List.find?_some first
  rw [beq_iff_eq] at strengthens
  exact ⟨remedy, inCatalog, published, rfl, rfl,
    remedialReason_backs isWeak.1 isWeak.2 isRemedial strengthens⟩

/-- What the progression rule proposes is grounded. -/
theorem progression_grounds {entry : Recommendation}
    (proposed : entry ∈
      (Rule.beginnerToIntermediate thresholds.beginnerRatio).candidates answers.context) :
    answers.Grounds thresholds entry := by
  rw [Rule.progression_candidates, context_completedCourses] at proposed
  split at proposed
  case isTrue reached =>
      obtain ⟨course, isCourse, rfl⟩ := List.mem_map.mp proposed
      rw [List.mem_filter, mem_context_allCourses, beq_iff_eq] at isCourse
      obtain ⟨⟨inCatalog, published⟩, intermediate⟩ := isCourse
      exact ⟨course, inCatalog, published, rfl, rfl, progressionReason_backs intermediate reached⟩
  case isFalse => cases proposed

/-- What the standard rules propose is grounded. -/
theorem proposals_ground {entry : Recommendation}
    (proposed : entry ∈ (RuleSet.standard thresholds).proposals answers.context) :
    answers.Grounds thresholds entry := by
  obtain ⟨rule, isRule, byRule⟩ := List.mem_flatMap.mp proposed
  simp only [RuleSet.standard, RuleSet.withRule, RuleSet.empty, List.nil_append,
    List.cons_append, List.mem_cons, List.not_mem_nil, or_false] at isRule
  rcases isRule with rfl | rfl | rfl
  · exact sequence_grounds byRule
  · exact remediation_grounds byRule
  · exact progression_grounds byRule

end Answers

/-- Whatever the three reads answer, the standard rules recommend each course once, every entry is
grounded in what was read, and with a history no proposal of any rule is lost. -/
theorem Advisor.recommend_grounded {store : Store} {learner : LearnerId} {answers : Answers}
    (answered : answers.Of store learner) (thresholds : Thresholds) :
    ∃ recommendations,
      (recommend ⟨store, .standard thresholds⟩ learner).value = .ok recommendations ∧
        (recommendations.map (·.courseId)).Nodup ∧
        (∀ entry ∈ recommendations, answers.Grounds thresholds entry) ∧
        (answers.history ≠ [] → ∀ rule ∈ (RuleSet.standard thresholds).rules,
          ∀ candidate ∈ rule.candidates answers.context,
            candidate.courseId ∈ recommendations.map (·.courseId)) := by
  have read := Store.context_ok answered.enrollments answered.catalog answered.results
  have value := recommend_value read (.standard thresholds)
  change _ = Except.ok (if answers.context.hasHistory then
    merge ((RuleSet.standard thresholds).proposals answers.context) else []) at value
  refine ⟨_, value, ?_⟩
  split
  case isTrue =>
      refine ⟨merge_nodup _, fun entry member => ?_, fun _ rule isRule candidate proposed => ?_⟩
      · exact Answers.proposals_ground (mem_of_mem_merge member)
      · exact mem_merge_ids.mpr (List.mem_map_of_mem
          (List.mem_flatMap.mpr ⟨rule, isRule, proposed⟩))
  case isFalse historyless =>
      refine ⟨List.nodup_nil, by simp, fun history => absurd ?_ history⟩
      rw [Context.hasHistory, Answers.context_completedCourses] at historyless
      simpa using historyless

/-- Two ids of these answers stand for several courses, one of them for a draft as well, and one
enrollment is still in progress. -/
def tangledAnswers : Answers where
  enrollments := [⟨⟨"u1"⟩, ⟨"C"⟩, false⟩, ⟨⟨"u1"⟩, ⟨"A"⟩, true⟩]
  catalog := [.new ⟨"A"⟩ "Old Intro" .beginner, .new ⟨"A"⟩ "Intro" .beginner,
    (Course.new ⟨"A"⟩ "Draft" .advanced).unpublished,
    (Course.new ⟨"B"⟩ "Next" .intermediate).withPrerequisite ⟨"A"⟩,
    ((Course.new ⟨"B"⟩ "Again" .advanced).withPrerequisite ⟨"A"⟩).remedialFor "Rust",
    (Course.new ⟨"C"⟩ "Last" .advanced).withPrerequisite ⟨"A"⟩]
  results := [⟨⟨"u1"⟩, .ofNat 10, "Rust"⟩, ⟨⟨"u2"⟩, .notNumber, "Go"⟩]

/-- This store answers every learner with the same three lists. -/
def tangledStore : Store where
  enrollments _ := .ok tangledAnswers.enrollments
  courses := .ok tangledAnswers.catalog
  results _ := .ok tangledAnswers.results

/-- All three rules propose one of the courses, and the entry tells only one of its records. -/
theorem tangledStore_grounded :
    tangledAnswers.Of tangledStore ⟨"u1"⟩ ∧ tangledAnswers.history ≠ [] ∧
      (Advisor.recommend ⟨tangledStore, .standard .standard⟩ ⟨"u1"⟩).value = .ok [
        ⟨⟨"B"⟩, "Next", "You are ready to move to an intermediate learning path"⟩,
        ⟨⟨"C"⟩, "Last", "Based on your completion of Intro"⟩] ∧
      tangledAnswers.Grounds .standard
        ⟨⟨"B"⟩, "Next", "You are ready to move to an intermediate learning path"⟩ ∧
      tangledAnswers.Grounds .standard ⟨⟨"C"⟩, "Last", "Based on your completion of Intro"⟩ := by
  have answered : tangledAnswers.Of tangledStore ⟨"u1"⟩ := ⟨rfl, rfl, rfl⟩
  have listed : (Advisor.recommend ⟨tangledStore, .standard .standard⟩ ⟨"u1"⟩).value = .ok [
      ⟨⟨"B"⟩, "Next", "You are ready to move to an intermediate learning path"⟩,
      ⟨⟨"C"⟩, "Last", "Based on your completion of Intro"⟩] := by
    decide +kernel
  obtain ⟨recommendations, value, _, grounded, _⟩ :=
    Advisor.recommend_grounded answered .standard
  obtain rfl := Except.ok.inj (value.symm.trans listed)
  refine ⟨answered, by decide +kernel, listed, grounded _ ?_, grounded _ ?_⟩
  · exact List.mem_cons_self
  · exact List.mem_cons_of_mem _ List.mem_cons_self

end CourseAdvisor
