/-
This file proves that no recommended course is lost when a learner completes a beginner course or
is assessed once more, and when the thresholds are loosened.
-/

import Mathlib.Data.List.InsertIdx
import CourseAdvisor.Proofs.Advice.StandardAdvice
import CourseAdvisor.Proofs.Double.Ordering

namespace CourseAdvisor

namespace Thresholds

variable {thresholds looser : Thresholds} {completions other : List Course}

theorem reachedBy_iff :
    thresholds.reachedBy completions = true ↔
      ∃ nonempty : 0 < completions.length, thresholds.beginnerRatio ≤
        .ofRatio false (completions.countP fun course => course.level == .beginner)
          completions.length nonempty := by
  unfold reachedBy
  split
  case isTrue nonempty => simp [nonempty]
  case isFalse empty => simp [empty]

/-- The order of the completions does not matter for the share. -/
theorem reachedBy_perm (permuted : completions.Perm other) :
    thresholds.reachedBy completions = thresholds.reachedBy other := by
  unfold reachedBy
  simp only [permuted.length_eq, permuted.countP_eq]

/-- One more beginner course does not lower the share. -/
theorem reachedBy_cons {course : Course} (beginner : course.level = .beginner)
    (reached : thresholds.reachedBy completions = true) :
    thresholds.reachedBy (course :: completions) = true := by
  obtain ⟨nonempty, atMost⟩ := reachedBy_iff.mp reached
  have counted : (course :: completions).countP (fun course => course.level == .beginner) =
      completions.countP (fun course => course.level == .beginner) + 1 :=
    List.countP_cons_of_pos (by simp [beginner])
  have part : completions.countP (fun course => course.level == .beginner) ≤ completions.length :=
    List.countP_le_length
  refine reachedBy_iff.mpr ⟨Nat.zero_lt_succ _, Double.le_trans atMost ?_⟩
  apply Double.ofRatio_mono
  rw [counted, List.length_cons, Nat.mul_succ, Nat.succ_mul]
  exact Nat.add_le_add_left part _

/-- A share that reaches a threshold reaches every lower one. -/
theorem reachedBy_loosened (lower : looser.beginnerRatio ≤ thresholds.beginnerRatio)
    (reached : thresholds.reachedBy completions = true) : looser.reachedBy completions = true := by
  obtain ⟨nonempty, atMost⟩ := reachedBy_iff.mp reached
  exact reachedBy_iff.mpr ⟨nonempty, Double.le_trans lower atMost⟩

end Thresholds

/-- Under its thresholds the grown context gives the standard rules everything that the first
context gives them under its own, over the same courses. -/
structure Context.GrowsTo (context : Context) (thresholds : Thresholds) (grown : Context)
    (looser : Thresholds) : Prop where
  published : grown.allCourses = context.allCourses
  remedial : grown.remedialCourses = context.remedialCourses
  completions : context.completedCourses ⊆ grown.completedCourses
  weakResults : ∀ result ∈ context.quizResults, result.score < thresholds.weakScore →
    result ∈ grown.quizResults ∧ result.score < looser.weakScore
  share : thresholds.reachedBy context.completedCourses = true →
    looser.reachedBy grown.completedCourses = true

namespace Context.GrowsTo

variable {context grown : Context} {thresholds looser : Thresholds}

theorem sequence_subset (grows : context.GrowsTo thresholds grown looser) :
    Rule.nextCourseSequence.candidates context ⊆ Rule.nextCourseSequence.candidates grown := by
  intro candidate proposed
  obtain ⟨done, completed, opened⟩ := List.mem_flatMap.mp proposed
  rw [← grows.published] at opened
  exact List.mem_flatMap.mpr ⟨done, grows.completions completed, opened⟩

theorem remediation_subset (grows : context.GrowsTo thresholds grown looser) :
    (Rule.lowQuizScoreRemedial thresholds.weakScore).candidates context ⊆
      (Rule.lowQuizScoreRemedial looser.weakScore).candidates grown := by
  intro candidate proposed
  obtain ⟨result, isWeak, found⟩ := List.mem_filterMap.mp proposed
  rw [List.mem_filter, decide_eq_true_iff] at isWeak
  rw [← grows.remedial] at found
  obtain ⟨known, below⟩ := grows.weakResults result isWeak.1 isWeak.2
  exact List.mem_filterMap.mpr
    ⟨result, List.mem_filter.mpr ⟨known, decide_eq_true below⟩, found⟩

theorem progression_subset (grows : context.GrowsTo thresholds grown looser) :
    (Rule.beginnerToIntermediate thresholds.beginnerRatio).candidates context ⊆
      (Rule.beginnerToIntermediate looser.beginnerRatio).candidates grown := by
  rw [Rule.progression_candidates, Rule.progression_candidates, grows.published]
  split
  case isTrue reached => rw [if_pos (grows.share reached)]; exact List.Subset.refl _
  case isFalse => exact List.nil_subset _

/-- No proposal of the standard rules is lost. -/
theorem proposals_subset (grows : context.GrowsTo thresholds grown looser) :
    (RuleSet.standard thresholds).proposals context ⊆
      (RuleSet.standard looser).proposals grown := by
  rw [RuleSet.standard_candidates, RuleSet.standard_candidates]
  intro candidate proposed
  rw [List.mem_append, List.mem_append] at proposed ⊢
  rcases proposed with (opened | remedied) | progressed
  · exact .inl (.inl (grows.sequence_subset opened))
  · exact .inl (.inr (grows.remediation_subset remedied))
  · exact .inr (grows.progression_subset progressed)

theorem hasHistory (grows : context.GrowsTo thresholds grown looser)
    (history : context.hasHistory = true) : grown.hasHistory = true := by
  rw [Context.hasHistory, Bool.not_eq_true', List.isEmpty_eq_false_iff_exists_mem] at history ⊢
  obtain ⟨done, completed⟩ := history
  exact ⟨done, grows.completions completed⟩

end Context.GrowsTo

/-- Both calls are answered, and every course of the first answer is in the second one. -/
def KeepsCourses (first second : Except StoreError (List Recommendation)) : Prop :=
  ∃ earlier later, first = .ok earlier ∧ second = .ok later ∧
    ∀ id ∈ earlier.map (·.courseId), id ∈ later.map (·.courseId)

/-- Growth keeps every recommended course, although its place and its reason may change. -/
theorem Advisor.recommend_growsTo {snapshot grown : Snapshot} {learner : LearnerId}
    {thresholds looser : Thresholds}
    (grows : (snapshot.view learner).GrowsTo thresholds (grown.view learner) looser) :
    KeepsCourses (recommend ⟨snapshot.store, .standard thresholds⟩ learner).value
      (recommend ⟨grown.store, .standard looser⟩ learner).value := by
  refine ⟨_, _, recommend_view learner snapshot _, recommend_view learner grown _, ?_⟩
  intro id member
  split at member
  case isTrue history =>
      rw [mem_merge_ids] at member
      rw [if_pos (grows.hasHistory history), mem_merge_ids]
      exact List.map_subset _ grows.proposals_subset member
  case isFalse => cases member

namespace Snapshot

/-- This puts an enrollment in front of those from a place on. -/
def insertEnrollment (snapshot : Snapshot) (place : Nat) (enrollment : Enrollment) : Snapshot :=
  { snapshot with enrollments := snapshot.enrollments.insertIdx place enrollment }

/-- This puts a result in front of those from a place on. -/
def insertResult (snapshot : Snapshot) (place : Nat) (result : ChallengeResult) : Snapshot :=
  { snapshot with challengeResults := snapshot.challengeResults.insertIdx place result }

variable (snapshot : Snapshot) {learner : LearnerId}

/-- A completion counts once, wherever it is inserted. -/
theorem insertEnrollment_completions {place : Nat} (inside : place ≤ snapshot.enrollments.length)
    {enrollment : Enrollment} {course : Course} (own : enrollment.studentId = learner)
    (completed : enrollment.completed = true)
    (found : Context.lastPublished? snapshot.courses enrollment.courseId = some course) :
    ((snapshot.insertEnrollment place enrollment).view learner).completedCourses.Perm
      (course :: (snapshot.view learner).completedCourses) := by
  have inserted : ((snapshot.insertEnrollment place enrollment).completedEnrollments learner).Perm
      (enrollment :: snapshot.completedEnrollments learner) := by
    have first : enrollment :: snapshot.completedEnrollments learner =
        (enrollment :: snapshot.enrollments).filter fun enrollment =>
          enrollment.completed && enrollment.studentId == learner :=
      (List.filter_cons_of_pos (by simp [own, completed])).symm
    rw [first]
    exact (List.perm_insertIdx enrollment snapshot.enrollments inside).filter _
  have published : Context.lastPublished? snapshot.publishedCourses enrollment.courseId =
      some course := (Context.lastPublished?_published _ _).trans found
  have counted := Context.resolvedCourses_perm inserted snapshot.publishedCourses
  rwa [Context.resolvedCourses_cons completed published] at counted

/-- Results are kept when another one is inserted. -/
theorem resultsOf_subset_insertResult (learner : LearnerId) (place : Nat)
    (result : ChallengeResult) :
    snapshot.resultsOf learner ⊆ (snapshot.insertResult place result).resultsOf learner :=
  List.filter_subset _ (List.subset_insertIdx _ place result)

end Snapshot

/-- For every snapshot, a further completion of the learner keeps every recommended course when it
stands for a published beginner course, wherever it is inserted into the enrollments. -/
theorem Advisor.recommend_completion (snapshot : Snapshot) (learner : LearnerId)
    (thresholds : Thresholds) (place : Nat) {enrollment : Enrollment} {course : Course}
    (own : enrollment.studentId = learner) (completed : enrollment.completed = true)
    (found : Context.lastPublished? snapshot.courses enrollment.courseId = some course)
    (beginner : course.level = .beginner) :
    KeepsCourses (recommend ⟨snapshot.store, .standard thresholds⟩ learner).value
      (recommend ⟨(snapshot.insertEnrollment place enrollment).store, .standard thresholds⟩
        learner).value := by
  apply recommend_growsTo
  by_cases inside : place ≤ snapshot.enrollments.length
  · have counted := snapshot.insertEnrollment_completions inside own completed found
    exact {
      published := rfl
      remedial := rfl
      completions := fun done member => counted.mem_iff.mpr (List.mem_cons_of_mem course member)
      weakResults := fun _ member below => ⟨member, below⟩
      share := fun reached => by
        rw [Thresholds.reachedBy_perm counted]
        exact Thresholds.reachedBy_cons beginner reached }
  · -- Behind the end there is no place, and nothing is inserted.
    rw [Snapshot.insertEnrollment, List.insertIdx_of_length_lt (by omega)]
    exact ⟨rfl, rfl, List.Subset.refl _, fun _ member below => ⟨member, below⟩, id⟩

/-- This learner has just enough beginner courses, and one id stands for two published courses, of
which the last one is at beginner level. -/
def thresholdSnapshot : Snapshot where
  courses := [.new ⟨"A"⟩ "Intro" .beginner, .new ⟨"E"⟩ "Expert" .advanced,
    .new ⟨"B"⟩ "Old Basics" .advanced, .new ⟨"B"⟩ "Basics" .beginner,
    (Course.new ⟨"N"⟩ "Next" .advanced).withPrerequisite ⟨"A"⟩,
    (Course.new ⟨"M"⟩ "Middle" .intermediate).withPrerequisite ⟨"B"⟩,
    (Course.new ⟨"R"⟩ "Refresher" .beginner).remedialFor "Rust",
    (Course.new ⟨"G"⟩ "Go Again" .beginner).remedialFor "Go"]
  enrollments := [⟨⟨"u1"⟩, ⟨"A"⟩, true⟩, ⟨⟨"u2"⟩, ⟨"E"⟩, true⟩, ⟨⟨"u1"⟩, ⟨"A"⟩, true⟩,
    ⟨⟨"u1"⟩, ⟨"A"⟩, true⟩, ⟨⟨"u1"⟩, ⟨"A"⟩, true⟩, ⟨⟨"u1"⟩, ⟨"E"⟩, true⟩]
  challengeResults := [⟨⟨"u1"⟩, .ofNat 10, "Rust"⟩, ⟨⟨"u1"⟩, .ofNat 55, "Go"⟩]

/-- A completion in the middle moves one of three courses up and keeps all of them. -/
theorem thresholdSnapshot_completion :
    Context.lastPublished? thresholdSnapshot.courses ⟨"B"⟩ =
        some (.new ⟨"B"⟩ "Basics" .beginner) ∧
      (Advisor.recommend ⟨thresholdSnapshot.store, .standard .standard⟩ ⟨"u1"⟩).value = .ok [
        ⟨⟨"N"⟩, "Next", "Based on your completion of Intro"⟩,
        ⟨⟨"R"⟩, "Refresher", "Recommended to strengthen your understanding of Rust"⟩,
        ⟨⟨"M"⟩, "Middle", "You are ready to move to an intermediate learning path"⟩] ∧
      ∃ later, (Advisor.recommend
          ⟨(thresholdSnapshot.insertEnrollment 3 ⟨⟨"u1"⟩, ⟨"B"⟩, true⟩).store,
            .standard .standard⟩ ⟨"u1"⟩).value = .ok later ∧
        ∀ id ∈ [(⟨"N"⟩ : CourseId), ⟨"R"⟩, ⟨"M"⟩], id ∈ later.map (·.courseId) := by
  have found : Context.lastPublished? thresholdSnapshot.courses ⟨"B"⟩ =
      some (.new ⟨"B"⟩ "Basics" .beginner) := by decide
  have listed : (Advisor.recommend ⟨thresholdSnapshot.store, .standard .standard⟩ ⟨"u1"⟩).value =
      .ok [⟨⟨"N"⟩, "Next", "Based on your completion of Intro"⟩,
        ⟨⟨"R"⟩, "Refresher", "Recommended to strengthen your understanding of Rust"⟩,
        ⟨⟨"M"⟩, "Middle", "You are ready to move to an intermediate learning path"⟩] := by
    decide +kernel
  have own : Enrollment.studentId ⟨⟨"u1"⟩, ⟨"B"⟩, true⟩ = ⟨"u1"⟩ := rfl
  obtain ⟨earlier, later, before, after, kept⟩ := Advisor.recommend_completion thresholdSnapshot
    ⟨"u1"⟩ .standard 3 own rfl found rfl
  obtain rfl := Except.ok.inj (before.symm.trans listed)
  exact ⟨found, listed, later, after, kept⟩

/-- For every snapshot, a further result of any learner keeps every recommended course, wherever it
is inserted into the results. So do thresholds that call more scores weak and ask for a smaller
share; what is not a number is never in order, so it is no threshold here. -/
theorem Advisor.recommend_loosened (snapshot : Snapshot) (learner : LearnerId) :
    (∀ (thresholds : Thresholds) (place : Nat) (result : ChallengeResult),
      KeepsCourses (recommend ⟨snapshot.store, .standard thresholds⟩ learner).value
        (recommend ⟨(snapshot.insertResult place result).store, .standard thresholds⟩
          learner).value) ∧
      ∀ thresholds looser : Thresholds, thresholds.weakScore ≤ looser.weakScore →
        looser.beginnerRatio ≤ thresholds.beginnerRatio →
          KeepsCourses (recommend ⟨snapshot.store, .standard thresholds⟩ learner).value
            (recommend ⟨snapshot.store, .standard looser⟩ learner).value := by
  constructor
  · intro thresholds place result
    apply recommend_growsTo
    have kept := snapshot.resultsOf_subset_insertResult learner place result
    exact ⟨rfl, rfl, List.Subset.refl _, fun _ member below => ⟨kept member, below⟩, id⟩
  · intro thresholds looser weaker lower
    apply recommend_growsTo
    exact ⟨rfl, rfl, List.Subset.refl _,
      fun _ member below => ⟨member, Double.lt_of_lt_of_le below weaker⟩,
      Thresholds.reachedBy_loosened lower⟩

/-- These thresholds find more scores weak and ask for a smaller share than the standard ones. -/
def looseThresholds : Thresholds := ⟨.ofNat 60, .ofRatio false 1 2 Nat.two_pos⟩

/-- A further result and looser thresholds bring a new course in among the three that stay. -/
theorem thresholdSnapshot_loosened :
    Thresholds.standard.weakScore ≤ looseThresholds.weakScore ∧
      looseThresholds.beginnerRatio ≤ Thresholds.standard.beginnerRatio ∧
      KeepsCourses
        (Advisor.recommend ⟨thresholdSnapshot.store, .standard .standard⟩ ⟨"u1"⟩).value
        (Advisor.recommend
          ⟨(thresholdSnapshot.insertResult 0 ⟨⟨"u1"⟩, .ofNat 20, "Go"⟩).store,
            .standard .standard⟩ ⟨"u1"⟩).value ∧
      KeepsCourses
        (Advisor.recommend ⟨thresholdSnapshot.store, .standard .standard⟩ ⟨"u1"⟩).value
        (Advisor.recommend ⟨thresholdSnapshot.store, .standard looseThresholds⟩ ⟨"u1"⟩).value := by
  obtain ⟨assessed, loosened⟩ := Advisor.recommend_loosened thresholdSnapshot ⟨"u1"⟩
  have weaker : Thresholds.standard.weakScore ≤ looseThresholds.weakScore := by decide +kernel
  have lower : looseThresholds.beginnerRatio ≤ Thresholds.standard.beginnerRatio := by
    decide +kernel
  exact ⟨weaker, lower, assessed .standard 0 ⟨⟨"u1"⟩, .ofNat 20, "Go"⟩,
    loosened .standard looseThresholds weaker lower⟩

end CourseAdvisor
