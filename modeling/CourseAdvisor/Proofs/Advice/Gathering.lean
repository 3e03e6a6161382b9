/-
This file proves that a context is what a plain scan of the three answers gives, and that nothing
changes when a store leaves out beforehand what does not count.
-/

import CourseAdvisor.Proofs.Advice.Grounds

namespace CourseAdvisor

namespace Context

/-- This goes through the enrollments in order, and for each completed one through the whole
catalog. The last published course with the id is taken; without one the enrollment is skipped. -/
def scan (catalog : List Course) : List Enrollment → List Course
  | [] => []
  | enrollment :: rest =>
      if enrollment.completed then
        match (catalog.filter fun course =>
            course.isPublished && course.id == enrollment.courseId).getLast? with
        | some course => course :: scan catalog rest
        | none => scan catalog rest
      else scan catalog rest

/-- The last published course is the last one of those that have the id. -/
theorem getLast?_published (catalog : List Course) (id : CourseId) :
    (catalog.filter fun course => course.isPublished && course.id == id).getLast? =
      lastPublished? catalog id :=
  List.getLast?_filter

/-- The roster resolves enrollments as the scan does. -/
theorem resolvedCourses_eq_scan (enrollments : List Enrollment) (catalog : List Course) :
    resolvedCourses enrollments catalog = scan catalog enrollments := by
  rw [resolvedCourses_eq]
  induction enrollments with
  | nil => rfl
  | cons enrollment rest ih =>
      rw [scan, getLast?_published]
      by_cases completed : enrollment.completed = true
      · rw [List.filter_cons_of_pos completed, if_pos completed, List.filterMap_cons, ih]
        cases lastPublished? catalog enrollment.courseId <;> rfl
      · rw [List.filter_cons_of_neg completed, if_neg completed, ih]

/-- Enrollments in progress can be left out beforehand. -/
theorem resolvedCourses_completed (enrollments : List Enrollment) (catalog : List Course) :
    resolvedCourses (enrollments.filter (·.completed)) catalog =
      resolvedCourses enrollments catalog := by
  simp [resolvedCourses_eq]

/-- Courses that are not published can be left out beforehand. -/
theorem new_published (completed catalog : List Course) (results : List ChallengeResult) :
    new completed (catalog.filter (·.isPublished)) results = new completed catalog results := by
  simp [new]

end Context

namespace Answers

variable (answers : Answers) {learner : LearnerId}

/-- These are the answers of a store that leaves out what is in progress or not published. -/
def filtered : Answers where
  enrollments := answers.enrollments.filter (·.completed)
  catalog := answers.catalog.filter (·.isPublished)
  results := answers.results

/-- The rules see the same when the answers have been filtered. -/
theorem filtered_context : answers.filtered.context = answers.context := by
  simp only [context, filtered, Context.ofReads, Context.resolvedCourses_completed,
    Context.resolvedCourses_published, Context.new_published]

/-- This snapshot holds the three answers and nothing else. -/
def snapshot : Snapshot := ⟨answers.catalog, answers.enrollments, answers.results⟩

/-- All enrollments and results are those of one learner. -/
structure Concern (learner : LearnerId) : Prop where
  enrollments : ∀ enrollment ∈ answers.enrollments, enrollment.studentId = learner
  results : ∀ result ∈ answers.results, result.userId = learner

variable {answers}

/-- What concerns one learner is filtered by the snapshot as by any store that filters. -/
theorem Concern.filtered_of (concern : answers.Concern learner) :
    answers.filtered.Of answers.snapshot.store learner where
  enrollments := by
    have completed : answers.snapshot.completedEnrollments learner =
        answers.enrollments.filter (·.completed) := by
      apply List.filter_congr
      intro enrollment member
      rw [concern.enrollments enrollment member, beq_self_eq_true, Bool.and_true]
    exact congrArg Except.ok completed
  catalog := rfl
  results := by
    have own : answers.snapshot.resultsOf learner = answers.results := by
      apply List.filter_eq_self.mpr
      intro result member
      rw [concern.results result member, beq_self_eq_true]
    exact congrArg Except.ok own

theorem Of.context_value {store : Store} (answered : answers.Of store learner) :
    (store.context learner).value = .ok answers.context := by
  rw [Store.context_ok answered.enrollments answered.catalog answered.results]
  rfl

end Answers

/-- The context holds what the scan finds, the published courses, the remedial ones among them and
all results, so that completed and remedial courses are always published ones. It is the same
context when the store has filtered its answers, and when all answers concern the learner a snapshot
of them gives it whether its store filters or not. -/
theorem Store.context_scanned {store : Store} {learner : LearnerId} {answers : Answers}
    (answered : answers.Of store learner) :
    ∃ context, (store.context learner).value = .ok context ∧
      context.completedCourses = Context.scan answers.catalog answers.enrollments ∧
      context.allCourses = answers.catalog.filter (·.isPublished) ∧
      context.remedialCourses =
        (answers.catalog.filter (·.isPublished)).filter (·.isRemedial) ∧
      context.quizResults = answers.results ∧
      (∀ course ∈ context.completedCourses, course ∈ context.allCourses) ∧
      (∀ course ∈ context.remedialCourses, course ∈ context.allCourses) ∧
      (∀ other : Store, answers.filtered.Of other learner →
        (other.context learner).value = .ok context) ∧
      (answers.Concern learner →
        (answers.snapshot.openStore.context learner).value = .ok context ∧
          (answers.snapshot.store.context learner).value = .ok context) := by
  have filtered (other : Store) (sparing : answers.filtered.Of other learner) :
      (other.context learner).value = .ok answers.context := by
    rw [sparing.context_value, answers.filtered_context]
  refine ⟨answers.context, answered.context_value,
    Context.resolvedCourses_eq_scan answers.enrollments answers.catalog, rfl, rfl, rfl,
    ?completed, ?remedial, filtered, ?concerned⟩
  case completed =>
    intro course member
    exact Answers.mem_context_allCourses.mpr (Context.mem_resolvedCourses member)
  case remedial =>
    intro course member
    obtain ⟨inCatalog, published, _⟩ := Answers.mem_context_remedialCourses.mp member
    exact Answers.mem_context_allCourses.mpr ⟨inCatalog, published⟩
  case concerned =>
    intro concern
    have opened : answers.Of answers.snapshot.openStore learner := ⟨rfl, rfl, rfl⟩
    exact ⟨opened.context_value, filtered _ concern.filtered_of⟩

/-- Drafts stand before and after two published courses with one id, which is completed twice,
while another id has nothing but a draft. -/
def draftedAnswers : Answers where
  enrollments := [⟨⟨"u1"⟩, ⟨"A"⟩, true⟩, ⟨⟨"u1"⟩, ⟨"R"⟩, false⟩, ⟨⟨"u1"⟩, ⟨"X"⟩, true⟩,
    ⟨⟨"u1"⟩, ⟨"A"⟩, true⟩]
  catalog := [(Course.new ⟨"A"⟩ "First Draft" .advanced).unpublished,
    .new ⟨"A"⟩ "Old Intro" .advanced, .new ⟨"A"⟩ "Intro" .beginner,
    (Course.new ⟨"A"⟩ "Last Draft" .advanced).unpublished,
    (Course.new ⟨"X"⟩ "Retired" .beginner).unpublished,
    (Course.new ⟨"R"⟩ "Refresher" .beginner).remedialFor "Rust"]
  results := [⟨⟨"u1"⟩, .ofNat 20, "Rust"⟩]

/-- Filtered beforehand or not, both completions stand for the last published course. -/
theorem draftedAnswers_scanned :
    draftedAnswers.Of draftedAnswers.snapshot.openStore ⟨"u1"⟩ ∧
      draftedAnswers.filtered.Of draftedAnswers.snapshot.store ⟨"u1"⟩ ∧
      draftedAnswers.Concern ⟨"u1"⟩ ∧
      ∃ context, context.completedCourses =
          [.new ⟨"A"⟩ "Intro" .beginner, .new ⟨"A"⟩ "Intro" .beginner] ∧
        (draftedAnswers.snapshot.openStore.context ⟨"u1"⟩).value = .ok context ∧
        (draftedAnswers.snapshot.store.context ⟨"u1"⟩).value = .ok context := by
  have opened : draftedAnswers.Of draftedAnswers.snapshot.openStore ⟨"u1"⟩ := ⟨rfl, rfl, rfl⟩
  have concern : draftedAnswers.Concern ⟨"u1"⟩ := ⟨by decide, by decide⟩
  have filtered := concern.filtered_of
  obtain ⟨context, value, completed, _, _, _, _, _, sparing, _⟩ := Store.context_scanned opened
  exact ⟨opened, filtered, concern, context, completed.trans (by decide +kernel), value,
    sparing _ filtered⟩

end CourseAdvisor
