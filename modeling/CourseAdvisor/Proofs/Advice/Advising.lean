/-
This file proves what an advisor reads, which rules it applies and what it answers.
-/

import CourseAdvisor.Advisor

namespace CourseAdvisor

namespace Traced

variable {α β : Type}

@[simp] theorem pure_eq (value : α) : (pure value : Traced α) = ⟨[], value⟩ := rfl

@[simp] theorem bind_eq (first : Traced α) (next : α → Traced β) :
    first >>= next =
      ⟨first.events ++ (next first.value).events, (next first.value).value⟩ := rfl

@[simp] theorem after_eq (event : Event) (value : α) : after event value = ⟨[event], value⟩ := rfl

end Traced

/-- These are the events of a run in which no read fails. -/
def allReads : List Event := [.read .enrollments, .read .courses, .read .results]

/-- Three successful reads give the context of what they answer. -/
theorem Store.context_ok {store : Store} {learner : LearnerId} {enrollments : List Enrollment}
    {catalog : List Course} {results : List ChallengeResult}
    (enrollmentsRead : store.enrollments learner = .ok enrollments)
    (coursesRead : store.courses = .ok catalog)
    (resultsRead : store.results learner = .ok results) :
    store.context learner = ⟨allReads, .ok (.ofReads enrollments catalog results)⟩ := by
  simp [context, enrollmentsRead, coursesRead, resultsRead, allReads]

/-- A snapshot shows a learner the own completed enrollments and results and what is published. -/
theorem Snapshot.store_context (snapshot : Snapshot) (learner : LearnerId) :
    snapshot.store.context learner =
      ⟨allReads, .ok (.ofReads (snapshot.completedEnrollments learner) snapshot.publishedCourses
        (snapshot.resultsOf learner))⟩ :=
  Store.context_ok rfl rfl rfl

namespace RuleSet

/-- These are the candidates of all rules, one rule after the other. -/
def proposals (set : RuleSet) (context : Context) : List Recommendation :=
  set.rules.flatMap fun rule => rule.candidates context

/-- The standard rules propose in their order. -/
theorem standard_candidates (thresholds : Thresholds) (context : Context) :
    (standard thresholds).proposals context =
      Rule.nextCourseSequence.candidates context ++
        (Rule.lowQuizScoreRemedial thresholds.weakScore).candidates context ++
        (Rule.beginnerToIntermediate thresholds.beginnerRatio).candidates context := by
  simp [standard, withRule, empty, proposals]

/-- Every rule is applied once, in order. -/
theorem candidatesFrom_eq (context : Context) (position : Nat) (rules : List Rule) :
    candidatesFrom context position rules =
      ⟨(List.range' position rules.length).map .applied,
        rules.flatMap fun rule => rule.candidates context⟩ := by
  induction rules generalizing position with
  | nil => rfl
  | cons rule rest ih => simp [candidatesFrom, ih, List.range'_succ]

/-- The proposals of all rules are merged in one pass. -/
theorem evaluate_eq (set : RuleSet) (context : Context) :
    set.evaluate context =
      ⟨(List.range' 0 set.size).map .applied, merge (set.proposals context)⟩ := by
  simp [evaluate, candidatesFrom_eq, size, proposals]

end RuleSet

namespace Advisor

/-- The store acts on the advice only through the context of the learner. -/
theorem recommend_congr {first second : Store} {learner : LearnerId}
    (same : first.context learner = second.context learner) (rules : RuleSet) :
    recommend ⟨first, rules⟩ learner = recommend ⟨second, rules⟩ learner := by
  simp only [recommend, same]

/-- With history, advice is what the rules propose for the context, merged. -/
theorem recommend_value {store : Store} {learner : LearnerId} {events : List Event}
    {context : Context} (read : store.context learner = ⟨events, .ok context⟩) (rules : RuleSet) :
    (recommend ⟨store, rules⟩ learner).value =
      .ok (if context.hasHistory then merge (rules.proposals context) else []) := by
  simp only [recommend, read, Traced.bind_eq]
  split
  · simp [RuleSet.evaluate_eq]
  · rfl

end Advisor

end CourseAdvisor
