/-
This file proves that advice depends on nothing but the learner's own slice of a snapshot.
-/

import CourseAdvisor.Proofs.Advice.Advising
import CourseAdvisor.Proofs.Advice.Resolution

namespace CourseAdvisor

namespace Snapshot

/-- A slice keeps what is published, the learner's own completions of it and the learner's own
results, each in the order of the snapshot. -/
def slice (snapshot : Snapshot) (learner : LearnerId) : Snapshot where
  courses := snapshot.courses.filter (·.isPublished)
  enrollments := snapshot.enrollments.filter fun enrollment =>
    enrollment.completed && enrollment.studentId == learner &&
      snapshot.courses.any fun course => course.isPublished && course.id == enrollment.courseId
  challengeResults := snapshot.challengeResults.filter (·.userId == learner)

/-- A published course has the id exactly when the id stands for a course. -/
theorem any_published (catalog : List Course) (id : CourseId) :
    (catalog.any fun course => course.isPublished && course.id == id) =
      (Context.lastPublished? catalog id).isSome := by
  rw [Bool.eq_iff_iff, Context.lastPublished?_isSome_iff, List.any_eq_true]
  simp only [Bool.and_eq_true, beq_iff_eq]

theorem slice_publishedCourses (snapshot : Snapshot) (learner : LearnerId) :
    (snapshot.slice learner).publishedCourses = snapshot.publishedCourses := by
  simp [slice, publishedCourses]

theorem slice_resultsOf (snapshot : Snapshot) (learner : LearnerId) :
    (snapshot.slice learner).resultsOf learner = snapshot.resultsOf learner := by
  simp [slice, resultsOf]

/-- A slice drops completions that stand for no published course. -/
theorem slice_completedEnrollments (snapshot : Snapshot) (learner : LearnerId) :
    (snapshot.slice learner).completedEnrollments learner =
      (snapshot.completedEnrollments learner).filter fun enrollment =>
        (Context.lastPublished? snapshot.publishedCourses enrollment.courseId).isSome := by
  simp only [slice, completedEnrollments, publishedCourses, List.filter_filter, any_published,
    Context.lastPublished?_published]
  apply List.filter_congr
  intro enrollment _
  cases enrollment.completed && enrollment.studentId == learner <;> simp

/-- The slice gives the learner the same context as the whole snapshot. -/
theorem slice_context (snapshot : Snapshot) (learner : LearnerId) :
    (snapshot.slice learner).store.context learner = snapshot.store.context learner := by
  rw [store_context, store_context, slice_publishedCourses, slice_resultsOf,
    slice_completedEnrollments]
  simp only [Context.ofReads, Context.resolvedCourses_filter_known]

end Snapshot

namespace Advisor

/-- The slice of a learner is all that the advice to the learner depends on. -/
theorem recommend_slice (snapshot : Snapshot) (learner : LearnerId) (rules : RuleSet) :
    recommend ⟨snapshot.store, rules⟩ learner =
        recommend ⟨(snapshot.slice learner).store, rules⟩ learner ∧
      ∀ other : Snapshot, other.slice learner = snapshot.slice learner →
        recommend ⟨other.store, rules⟩ learner = recommend ⟨snapshot.store, rules⟩ learner := by
  have sliced (whole : Snapshot) : recommend ⟨whole.store, rules⟩ learner =
      recommend ⟨(whole.slice learner).store, rules⟩ learner :=
    recommend_congr (whole.slice_context learner).symm rules
  refine ⟨sliced snapshot, ?_⟩
  intro other same
  rw [sliced other, sliced snapshot, same]

end Advisor

/-- This snapshot holds nothing but what counts for one learner. -/
def quietSnapshot : Snapshot where
  courses := [.new ⟨"A"⟩ "Intro" .beginner,
    (Course.new ⟨"B"⟩ "Advanced" .advanced).withPrerequisite ⟨"A"⟩]
  enrollments := [⟨⟨"u1"⟩, ⟨"A"⟩, true⟩]
  challengeResults := [⟨⟨"u1"⟩, .zero, "Rust"⟩]

/-- This snapshot adds an unpublished twin of a published course, an enrollment in progress,
completions of a retired and of an unknown course, and another learner. -/
def noisySnapshot : Snapshot where
  courses := [.new ⟨"A"⟩ "Intro" .beginner,
    (Course.new ⟨"B"⟩ "Advanced" .advanced).withPrerequisite ⟨"A"⟩,
    (Course.new ⟨"A"⟩ "Old Intro" .advanced).unpublished,
    (Course.new ⟨"X"⟩ "Retired" .beginner).unpublished]
  enrollments := [⟨⟨"u2"⟩, ⟨"B"⟩, true⟩, ⟨⟨"u1"⟩, ⟨"X"⟩, true⟩, ⟨⟨"u1"⟩, ⟨"A"⟩, true⟩,
    ⟨⟨"u1"⟩, ⟨"B"⟩, false⟩, ⟨⟨"u1"⟩, ⟨"Y"⟩, true⟩]
  challengeResults := [⟨⟨"u2"⟩, .zero, "Go"⟩, ⟨⟨"u1"⟩, .zero, "Rust"⟩]

/-- The advice is the same with the noise and without it. -/
theorem noisySnapshot_advice :
    noisySnapshot.slice ⟨"u1"⟩ = quietSnapshot.slice ⟨"u1"⟩ ∧ noisySnapshot ≠ quietSnapshot ∧
      Advisor.recommend ⟨noisySnapshot.store, .standard .standard⟩ ⟨"u1"⟩ =
        Advisor.recommend ⟨quietSnapshot.store, .standard .standard⟩ ⟨"u1"⟩ := by
  have same : noisySnapshot.slice ⟨"u1"⟩ = quietSnapshot.slice ⟨"u1"⟩ := by decide +kernel
  refine ⟨same, by decide +kernel, ?_⟩
  exact (Advisor.recommend_slice quietSnapshot ⟨"u1"⟩ (.standard .standard)).2 noisySnapshot same

end CourseAdvisor
