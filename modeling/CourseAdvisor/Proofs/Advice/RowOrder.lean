/-
This file proves that the order of the rows of a snapshot decides neither what is recommended nor
why.
-/

import Mathlib.Data.List.Pairwise
import CourseAdvisor.Proofs.Advice.Growth

namespace CourseAdvisor

open FirstOccurrences

/-- Two standings hold the same rows, each kind in some order, and find the same remedies. -/
structure Standing.Reorders (standing reordered : Standing) : Prop where
  published : standing.published.Perm reordered.published
  completions : standing.completions.Perm reordered.completions
  weakSkills : standing.weakSkills.Perm reordered.weakSkills
  progresses : standing.progresses = reordered.progresses
  remedies : ∀ skill, standing.remedy? skill = reordered.remedy? skill

namespace Standing.Reorders

variable {standing reordered : Standing} (reorders : standing.Reorders reordered)

include reorders

theorem sound (sound : standing.Sound) : reordered.Sound where
  distinct := (reorders.published.map _).nodup_iff.mp sound.distinct
  known done completed := reorders.published.mem_iff.mp
    (sound.known done (reorders.completions.mem_iff.mpr completed))

theorem intermediates : standing.intermediates.Perm reordered.intermediates := by
  unfold Standing.intermediates
  rw [← reorders.progresses]
  split
  · exact reorders.published.filter _
  · exact .refl _

/-- Each rule gives all its candidates for one course the same reason, so the last candidate for
a course does not depend on the order. -/
theorem lastCandidate_published (sound : standing.Sound) {course : Course}
    (published : course ∈ standing.published) :
    lastCandidate? standing.candidates course.id =
      lastCandidate? reordered.candidates course.id := by
  have soundToo := reorders.sound sound
  rw [sound.candidates_last published,
    soundToo.candidates_last (reorders.published.mem_iff.mp published)]
  congr 2
  · apply find?_perm reorders.intermediates
    intro _ _ same _ _ twinSame
    rw [beq_iff_eq] at same twinSame
    rw [same, twinSame]
  · congr 1
    simp only [← reorders.remedies]
    apply find?_perm reorders.weakSkills
    intro _ _ found _ _ twinFound
    rw [beq_iff_eq] at found twinFound
    exact Option.some.inj ((remedy?_found twinFound).2.symm.trans (remedy?_found found).2)
  · congr 1
    apply find?_perm reorders.completions
    intro _ completed opened _ twinCompleted twinOpened
    rw [beq_iff_eq] at opened twinOpened
    exact sound.same (sound.known _ twinCompleted) (sound.known _ completed)
      (Option.some.inj (twinOpened.symm.trans opened))

/-- The order does not decide what is proposed last for an id, published or not. -/
theorem lastCandidate (sound : standing.Sound) (id : CourseId) :
    lastCandidate? standing.candidates id = lastCandidate? reordered.candidates id := by
  by_cases isKnown : ∃ course ∈ standing.published, course.id = id
  case pos =>
      obtain ⟨course, published, rfl⟩ := isKnown
      exact reorders.lastCandidate_published sound published
  case neg =>
      have unpublished : ∀ course ∈ standing.published, course.id ≠ id :=
        fun course published sameId => isKnown ⟨course, published, sameId⟩
      have unpublishedToo : ∀ course ∈ reordered.published, course.id ≠ id :=
        fun course published => unpublished course (reorders.published.mem_iff.mpr published)
      rw [sound.candidates_unpublished unpublished,
        (reorders.sound sound).candidates_unpublished unpublishedToo]

end Standing.Reorders

namespace Snapshot

/-- Two snapshots hold the same rows, each kind in some order. -/
structure Reorders (snapshot reordered : Snapshot) : Prop where
  courses : snapshot.courses.Perm reordered.courses
  enrollments : snapshot.enrollments.Perm reordered.enrollments
  challengeResults : snapshot.challengeResults.Perm reordered.challengeResults

/-- No skill is that of both courses. -/
def ShareNoSkill (course other : Course) : Prop :=
  ∀ skill, course.skill = some skill → other.skill ≠ some skill

theorem ShareNoSkill.symm {course other : Course} (apart : ShareNoSkill course other) :
    ShareNoSkill other course :=
  fun skill isOther isCourse => apart skill isCourse isOther

instance : Std.Symm ShareNoSkill := ⟨fun _ _ => ShareNoSkill.symm⟩

/-- No two published remedial courses are in one skill. -/
def HasDistinctRemedies (snapshot : Snapshot) : Prop :=
  ((snapshot.courses.filter fun course => course.isPublished && course.isRemedial).filterMap
    (·.skill)).Nodup

instance (snapshot : Snapshot) : Decidable snapshot.HasDistinctRemedies :=
  inferInstanceAs (Decidable (List.Nodup _))

variable {snapshot reordered : Snapshot}

theorem HasDistinctRemedies.pairwise (distinct : snapshot.HasDistinctRemedies) :
    (snapshot.courses.filter fun course => course.isPublished && course.isRemedial).Pairwise
      ShareNoSkill := by
  apply (List.pairwise_filterMap.mp distinct).imp
  intro course other different skill isCourse isOther
  exact different skill isCourse skill isOther rfl

/-- With distinct remedies, a published remedial course in a skill is the only one in it. -/
theorem HasDistinctRemedies.same (distinct : snapshot.HasDistinctRemedies) {first second : Course}
    (isFirst : first ∈ snapshot.courses ∧ first.isPublished = true ∧ first.isRemedial = true)
    (isSecond : second ∈ snapshot.courses ∧ second.isPublished = true ∧ second.isRemedial = true)
    {skill : String} (firstSkill : first.skill = some skill)
    (secondSkill : second.skill = some skill) : first = second := by
  by_contra different
  refine distinct.pairwise.forall ?_ ?_ different skill firstSkill secondSkill
  · exact List.mem_filter.mpr ⟨isFirst.1, Bool.and_eq_true_iff.mpr isFirst.2⟩
  · exact List.mem_filter.mpr ⟨isSecond.1, Bool.and_eq_true_iff.mpr isSecond.2⟩

namespace Reorders

variable (reorders : snapshot.Reorders reordered)

include reorders

/-- The checks of a snapshot pass in every order or in none. -/
theorem valid (valid : snapshot.defect? = none) : reordered.defect? = none := by
  rw [defect?_eq_none] at valid ⊢
  refine ⟨(reorders.courses.map _).nodup_iff.mp valid.1, fun result member => ?_⟩
  exact valid.2 result (reorders.challengeResults.mem_iff.mpr member)

/-- With distinct ids, a completion stands for one course in every order of the catalog. -/
theorem completions (valid : snapshot.defect? = none) (learner : LearnerId) :
    (snapshot.completions learner).Perm (reordered.completions learner) := by
  have distinct := publishedIds_nodup valid
  have sameCourse (id : CourseId) :
      (snapshot.courses.filter (·.isPublished)).find? (fun course => course.id == id) =
        (reordered.courses.filter (·.isPublished)).find? (fun course => course.id == id) := by
    apply find?_perm (reorders.courses.filter _)
    intro course member sameId twin twinMember twinSameId
    rw [beq_iff_eq] at sameId twinSameId
    exact List.inj_on_of_nodup_map distinct twinMember member (twinSameId.trans sameId.symm)
  unfold Snapshot.completions
  simp only [← sameCourse]
  exact (reorders.enrollments.filter _).filterMap _

theorem standing (valid : snapshot.defect? = none)
    (remedies : reordered.courses = snapshot.courses ∨ snapshot.HasDistinctRemedies)
    (learner : LearnerId) (thresholds : Thresholds) :
    (snapshot.standing learner thresholds).Reorders (reordered.standing learner thresholds) where
  published := reorders.courses.filter _
  completions := reorders.completions valid learner
  weakSkills := (reorders.challengeResults.filter _).map _
  progresses := Thresholds.reachedBy_perm (reorders.completions valid learner)
  remedies skill := by
    rcases remedies with same | distinct
    · simp only [Standing.remedy?, Snapshot.standing, same]
    · apply find?_perm (reorders.courses.filter _)
      intro course member passed twin twinMember twinPassed
      rw [List.mem_filter] at member twinMember
      rw [Bool.and_eq_true, beq_iff_eq] at passed twinPassed
      exact distinct.same ⟨twinMember.1, twinMember.2, twinPassed.1⟩
        ⟨member.1, member.2, passed.1⟩ twinPassed.2 passed.2

end Reorders

end Snapshot

/-- Both calls are answered, with the same entries in some order. -/
def SameEntries (first second : Except StoreError (List Recommendation)) : Prop :=
  ∃ earlier later, first = .ok earlier ∧ second = .ok later ∧ earlier.Perm later

/-- For every snapshot that passes its checks, the same rows in another order bring the same
recommendations with the same titles and reasons. Enrollments and results may be reordered in any
way, and courses too when no two published remedial courses are in one skill. -/
theorem Advisor.recommend_reordered {snapshot reordered : Snapshot}
    (valid : snapshot.defect? = none) (reorders : snapshot.Reorders reordered)
    (remedies : reordered.courses = snapshot.courses ∨ snapshot.HasDistinctRemedies)
    (learner : LearnerId) (thresholds : Thresholds) :
    SameEntries (recommend ⟨snapshot.store, .standard thresholds⟩ learner).value
      (recommend ⟨reordered.store, .standard thresholds⟩ learner).value := by
  have validToo := reorders.valid valid
  have standing := reorders.standing valid remedies learner thresholds
  have sameHistory : (reordered.view learner).hasHistory = (snapshot.view learner).hasHistory := by
    rw [Context.hasHistory, Context.hasHistory, Snapshot.view_completedCourses learner valid,
      Snapshot.view_completedCourses learner validToo,
      (reorders.completions valid learner).isEmpty_eq]
  refine ⟨_, _, recommend_view learner snapshot _, recommend_view learner reordered _, ?_⟩
  rw [sameHistory, RuleSet.standard_proposals learner thresholds valid,
    RuleSet.standard_proposals learner thresholds validToo]
  split
  · have sound := Snapshot.standing_sound learner thresholds valid
    exact merge_perm (standing.lastCandidate sound)
  · exact .refl _

/-- Each of these learner's rows has a bearing on the place of a recommendation. -/
def orderedSnapshot : Snapshot where
  courses := [.new ⟨"A"⟩ "Intro" .beginner, .new ⟨"B"⟩ "Basics" .beginner,
    (Course.new ⟨"N"⟩ "Next" .advanced).withPrerequisite ⟨"A"⟩,
    (Course.new ⟨"M"⟩ "Middle" .intermediate).withPrerequisite ⟨"B"⟩,
    (Course.new ⟨"R"⟩ "Refresher" .beginner).remedialFor "Rust",
    (Course.new ⟨"G"⟩ "Go Again" .beginner).remedialFor "Go"]
  enrollments := [⟨⟨"u1"⟩, ⟨"A"⟩, true⟩, ⟨⟨"u1"⟩, ⟨"A"⟩, true⟩, ⟨⟨"u1"⟩, ⟨"B"⟩, true⟩]
  challengeResults := [⟨⟨"u1"⟩, .ofNat 10, "Rust"⟩, ⟨⟨"u1"⟩, .ofNat 5, "Rust"⟩,
    ⟨⟨"u1"⟩, .ofNat 20, "Go"⟩]

/-- This has the same rows from last to first. -/
def turnedSnapshot : Snapshot where
  courses := orderedSnapshot.courses.reverse
  enrollments := orderedSnapshot.enrollments.reverse
  challengeResults := orderedSnapshot.challengeResults.reverse

/-- Every recommendation changes its place, and none of them changes its text. -/
theorem orderedSnapshot_turned :
    orderedSnapshot.defect? = none ∧ orderedSnapshot.Reorders turnedSnapshot ∧
      orderedSnapshot.HasDistinctRemedies ∧
      (Advisor.recommend ⟨turnedSnapshot.store, .standard .standard⟩ ⟨"u1"⟩).value = .ok [
        ⟨⟨"M"⟩, "Middle", "You are ready to move to an intermediate learning path"⟩,
        ⟨⟨"N"⟩, "Next", "Based on your completion of Intro"⟩,
        ⟨⟨"G"⟩, "Go Again", "Recommended to strengthen your understanding of Go"⟩,
        ⟨⟨"R"⟩, "Refresher", "Recommended to strengthen your understanding of Rust"⟩] ∧
      SameEntries
        (Advisor.recommend ⟨orderedSnapshot.store, .standard .standard⟩ ⟨"u1"⟩).value
        (Advisor.recommend ⟨turnedSnapshot.store, .standard .standard⟩ ⟨"u1"⟩).value ∧
      SameEntries
        (Advisor.recommend ⟨orderedSnapshot.store, .standard .standard⟩ ⟨"u1"⟩).value
        (Advisor.recommend
          ⟨Snapshot.store { turnedSnapshot with courses := orderedSnapshot.courses },
            .standard .standard⟩ ⟨"u1"⟩).value := by
  have valid : orderedSnapshot.defect? = none := by decide +kernel
  have turned {α : Type} (rows : List α) : rows.Perm rows.reverse := (List.reverse_perm rows).symm
  have reorders : orderedSnapshot.Reorders turnedSnapshot := ⟨turned _, turned _, turned _⟩
  have rowsOnly : orderedSnapshot.Reorders
      { turnedSnapshot with courses := orderedSnapshot.courses } :=
    ⟨.refl _, reorders.enrollments, reorders.challengeResults⟩
  have distinct : orderedSnapshot.HasDistinctRemedies := by decide +kernel
  refine ⟨valid, reorders, distinct, by decide +kernel, ?_, ?_⟩
  · exact Advisor.recommend_reordered valid reorders (.inr distinct) ⟨"u1"⟩ .standard
  · exact Advisor.recommend_reordered valid rowsOnly (.inl rfl) ⟨"u1"⟩ .standard

end CourseAdvisor
