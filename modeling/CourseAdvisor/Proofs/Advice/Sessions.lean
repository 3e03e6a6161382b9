/-
This file proves what an advisor does over a whole sequence of calls: which calls fail, which are
answered without any rule, and how often each rule is applied.
-/

import CourseAdvisor.Proofs.Advice.Advising
import CourseAdvisor.Proofs.Advice.Resolution

namespace CourseAdvisor

/-- This is the failure of a read that fails. -/
def failure? {α : Type} : Except StoreError α → Option StoreError
  | .error error => some error
  | .ok _ => none

/-- This is the position of the rule that is applied. -/
def Event.position? : Event → Option Nat
  | .applied position => some position
  | .read _ => none

namespace Store

/-- These are the failures among the three reads for a learner, in the order of the reads. -/
def failures (store : Store) (learner : LearnerId) : List StoreError :=
  (failure? (store.enrollments learner)).toList ++ (failure? store.courses).toList ++
    (failure? (store.results learner)).toList

/-- A learner is served by the rules when no read fails and a completed enrollment names a
published course. -/
def serves (store : Store) (learner : LearnerId) : Bool :=
  match store.enrollments learner, store.courses, store.results learner with
  | .ok enrollments, .ok catalog, .ok _ =>
      enrollments.any fun enrollment => enrollment.completed &&
        catalog.any fun course => course.isPublished && course.id == enrollment.courseId
  | _, _, _ => false

variable {store : Store} {learner : LearnerId}

/-- Without a failure all three reads answer. -/
theorem answers_of_failures (none : store.failures learner = []) :
    ∃ enrollments catalog results, store.enrollments learner = .ok enrollments ∧
      store.courses = .ok catalog ∧ store.results learner = .ok results := by
  unfold failures at none
  cases first : store.enrollments learner with
  | error error => simp [first, failure?] at none
  | ok enrollments =>
      cases second : store.courses with
      | error error => simp [second, failure?] at none
      | ok catalog =>
          cases third : store.results learner with
          | error error => simp [third, failure?] at none
          | ok results => exact ⟨enrollments, catalog, results, rfl, rfl, rfl⟩

/-- A learner is served only when no read fails. -/
theorem failures_of_serves (serves : store.serves learner = true) :
    store.failures learner = [] := by
  unfold Store.serves at serves
  split at serves
  case h_1 first second third => simp [failures, first, second, third, failure?]
  case h_2 => cases serves

/-- Reading stops at the first failure, and reports it. -/
theorem context_failed {error : StoreError}
    (failed : (store.failures learner).head? = some error) :
    (store.context learner).value = .error error ∧
      (store.context learner).events.filterMap Event.position? = [] := by
  unfold failures at failed
  cases first : store.enrollments learner with
  | error found => simpa [context, first, failure?, Event.position?] using failed
  | ok enrollments =>
      cases second : store.courses with
      | error found => simpa [context, first, second, failure?, Event.position?] using failed
      | ok catalog =>
          cases third : store.results learner with
          | error found =>
              simpa [context, first, second, third, failure?, Event.position?] using failed
          | ok results => simp [first, second, third, failure?] at failed

/-- The context of a learner has a history exactly when the rules serve the learner. -/
theorem serves_eq_hasHistory {enrollments : List Enrollment} {catalog : List Course}
    {results : List ChallengeResult} (enrollmentsRead : store.enrollments learner = .ok enrollments)
    (coursesRead : store.courses = .ok catalog)
    (resultsRead : store.results learner = .ok results) :
    (Context.ofReads enrollments catalog results).hasHistory = store.serves learner := by
  have resolved : (Context.ofReads enrollments catalog results).completedCourses =
      (enrollments.filter (·.completed)).filterMap fun enrollment =>
        Context.lastPublished? catalog enrollment.courseId :=
    Context.resolvedCourses_eq enrollments catalog
  rw [Bool.eq_iff_iff, Context.hasHistory, resolved, serves, enrollmentsRead, coursesRead,
    resultsRead]
  simp only [Bool.not_eq_true', List.isEmpty_eq_false_iff_exists_mem, List.mem_filterMap,
    List.mem_filter, List.any_eq_true, Bool.and_eq_true, beq_iff_eq]
  constructor
  · rintro ⟨course, enrollment, ⟨member, completed⟩, found⟩
    obtain ⟨inCatalog, published, same⟩ := Context.lastPublished?_found found
    exact ⟨enrollment, member, completed, course, inCatalog, published, same⟩
  · rintro ⟨enrollment, member, completed, published⟩
    obtain ⟨course, found⟩ := Option.isSome_iff_exists.mp
      ((Context.lastPublished?_isSome_iff catalog enrollment.courseId).mpr published)
    exact ⟨course, enrollment, ⟨member, completed⟩, found⟩

end Store

namespace Advisor

variable (advisor : Advisor)

/-- An advisor is asked for one learner after the other. -/
def session : List LearnerId → Traced (List (Except StoreError (List Recommendation)))
  | [] => return []
  | learner :: rest => do
      let answer ← advisor.recommend learner
      let answers ← session rest
      return answer :: answers

variable {advisor} {learner : LearnerId}

/-- A call whose reads fail reports the first failure and applies no rule. -/
theorem recommend_failed {error : StoreError}
    (failed : (advisor.store.failures learner).head? = some error) :
    (advisor.recommend learner).value = .error error ∧
      (advisor.recommend learner).events.filterMap Event.position? = [] := by
  obtain ⟨value, events⟩ := Store.context_failed failed
  simp [recommend, value, events]

/-- A call whose reads answer applies every rule once, in order, when the learner is served, and
no rule otherwise. -/
theorem recommend_answered (none : advisor.store.failures learner = []) :
    ∃ recommendations, (advisor.recommend learner).value = .ok recommendations ∧
      (advisor.store.serves learner = false → recommendations = []) ∧
      (advisor.recommend learner).events.filterMap Event.position? =
        if advisor.store.serves learner then List.range advisor.rules.size else [] := by
  obtain ⟨enrollments, catalog, results, first, second, third⟩ := Store.answers_of_failures none
  have context := Store.context_ok first second third
  have history := Store.serves_eq_hasHistory first second third
  have positions : allReads.filterMap Event.position? = [] := rfl
  unfold recommend
  cases served : advisor.store.serves learner with
  | false => simp [context, history, served, positions]
  | true =>
      have applied : (List.map Event.applied (List.range' 0 advisor.rules.size)).filterMap
          Event.position? = List.range advisor.rules.size := by
        rw [List.filterMap_map, List.range_eq_range']
        exact List.filterMap_some
      simp [context, history, served, positions, RuleSet.evaluate_eq, applied]

/-- Rules are applied for the learners that are served and for no others. -/
theorem recommend_positions (advisor : Advisor) (learner : LearnerId) :
    (advisor.recommend learner).events.filterMap Event.position? =
      if advisor.store.serves learner then List.range advisor.rules.size else [] := by
  cases failed : (advisor.store.failures learner).head? with
  | none =>
      obtain ⟨_, _, _, positions⟩ := recommend_answered (List.head?_eq_none_iff.mp failed)
      exact positions
  | some error =>
      have unserved : ¬advisor.store.serves learner = true := fun serves => by
        simp [Store.failures_of_serves serves] at failed
      rw [if_neg unserved, (recommend_failed failed).2]

/-- A call fails with the first failure of its reads, and only then. -/
theorem recommend_error_iff (advisor : Advisor) (learner : LearnerId) (error : StoreError) :
    (advisor.recommend learner).value = .error error ↔
      (advisor.store.failures learner).head? = some error := by
  cases failed : (advisor.store.failures learner).head? with
  | none =>
      obtain ⟨_, value, _⟩ := recommend_answered (List.head?_eq_none_iff.mp failed)
      simp [value]
  | some found => simp [(recommend_failed failed).1]

theorem session_cons (advisor : Advisor) (learner : LearnerId) (rest : List LearnerId) :
    advisor.session (learner :: rest) =
      ⟨(advisor.recommend learner).events ++ (advisor.session rest).events,
        (advisor.recommend learner).value :: (advisor.session rest).value⟩ := by
  simp [session]

/-- What was asked before leaves no trace in an answer. -/
theorem session_value (advisor : Advisor) (learners : List LearnerId) :
    (advisor.session learners).value =
      learners.map fun learner => (advisor.recommend learner).value := by
  induction learners with
  | nil => rfl
  | cons learner rest ih => rw [session_cons, ih, List.map_cons]

/-- Over a session the rules are applied in order, once for each learner that is served. -/
theorem session_positions (advisor : Advisor) (learners : List LearnerId) :
    (advisor.session learners).events.filterMap Event.position? =
      (learners.filter advisor.store.serves).flatMap fun _ => List.range advisor.rules.size := by
  induction learners with
  | nil => rfl
  | cons learner rest ih =>
      rw [session_cons, List.filterMap_append, recommend_positions, ih, List.filter_cons]
      split <;> simp

/-- A rule is applied as often as its position is listed. -/
theorem count_applied (events : List Event) (position : Nat) :
    events.count (.applied position) = (events.filterMap Event.position?).count position := by
  induction events with
  | nil => rfl
  | cons event rest ih =>
      cases event with
      | read kind => rw [List.filterMap_cons_none rfl, ← ih, List.count_cons_of_ne (by simp)]
      | applied other =>
          have known : (Event.applied other).position? = some other := rfl
          rw [List.filterMap_cons_some known, List.count_cons, List.count_cons, ih]
          simp

/-- A call fails exactly when a read fails, and reports the first failure. A call without failures
for a learner whom the rules do not serve recommends nothing. Over a session every rule is applied
once for each of the other calls, in the order of the rule set, and every answer is the one that
an advisor gives that has not been asked before. -/
theorem session_calls (advisor : Advisor) (learners : List LearnerId) :
    (∀ learner error, (advisor.recommend learner).value = .error error ↔
        (advisor.store.failures learner).head? = some error) ∧
      (∀ learner, advisor.store.failures learner = [] → advisor.store.serves learner = false →
        (advisor.recommend learner).value = .ok []) ∧
      (advisor.session learners).events.filterMap Event.position? =
        (learners.filter advisor.store.serves).flatMap (fun _ => List.range advisor.rules.size) ∧
      (∀ position < advisor.rules.size, (advisor.session learners).events.count
        (.applied position) = learners.countP advisor.store.serves) ∧
      (advisor.session learners).value =
        learners.map fun learner => (recommend ⟨advisor.store, advisor.rules⟩ learner).value := by
  refine ⟨advisor.recommend_error_iff, ?_, advisor.session_positions learners, ?_,
    advisor.session_value learners⟩
  · intro learner none unserved
    obtain ⟨recommendations, value, nothing, _⟩ := recommend_answered none
    rw [value, nothing unserved]
  · intro position inside
    have once : (List.range advisor.rules.size).count position = 1 :=
      List.count_eq_one_of_mem List.nodup_range (List.mem_range.mpr inside)
    rw [count_applied, session_positions, List.count_flatMap, List.countP_eq_length_filter]
    simp [Function.comp_def, once]

end Advisor

/-- This store fails for one learner in two reads, and knows the others. -/
def partialStore : Store where
  enrollments learner :=
    if learner.text = "lost" then .error (.unavailable "enrollments")
    else if learner.text = "new" then .ok [⟨learner, ⟨"X"⟩, true⟩, ⟨learner, ⟨"A"⟩, false⟩]
    else .ok [⟨learner, ⟨"A"⟩, true⟩]
  courses := .ok [.new ⟨"A"⟩ "Intro" .beginner, (Course.new ⟨"X"⟩ "Retired" .beginner).unpublished]
  results learner := if learner.text = "lost" then .error (.unavailable "results") else .ok []

/-- Two of these calls are served by the rules. The first failure of the third is told, and the
fourth has nothing but a retired completion and one in progress. -/
theorem partialStore_session :
    partialStore.failures ⟨"lost"⟩ = [.unavailable "enrollments", .unavailable "results"] ∧
      (Advisor.recommend ⟨partialStore, .standard .standard⟩ ⟨"lost"⟩).value =
        .error (.unavailable "enrollments") ∧
      partialStore.failures ⟨"new"⟩ = [] ∧ partialStore.serves ⟨"new"⟩ = false ∧
      (Advisor.recommend ⟨partialStore, .standard .standard⟩ ⟨"new"⟩).value = .ok [] ∧
      2 < (RuleSet.standard .standard).size ∧
      (Advisor.session ⟨partialStore, .standard .standard⟩
        [⟨"u1"⟩, ⟨"u2"⟩, ⟨"lost"⟩, ⟨"new"⟩]).events.count (.applied 2) = 2 := by
  obtain ⟨failing, unserved, _, counted, _⟩ :=
    Advisor.session_calls ⟨partialStore, .standard .standard⟩ [⟨"u1"⟩, ⟨"u2"⟩, ⟨"lost"⟩, ⟨"new"⟩]
  have failures : partialStore.failures ⟨"lost"⟩ =
      [.unavailable "enrollments", .unavailable "results"] := by decide
  have quiet : partialStore.failures ⟨"new"⟩ = [] := by decide
  have aside : partialStore.serves ⟨"new"⟩ = false := by decide
  have inside : 2 < (RuleSet.standard .standard).size := by decide
  have told : (partialStore.failures ⟨"lost"⟩).head? = some (.unavailable "enrollments") := by
    rw [failures]
    rfl
  exact ⟨failures, (failing ⟨"lost"⟩ _).mpr told, quiet, aside, unserved ⟨"new"⟩ quiet aside,
    inside, (counted 2 inside).trans (by decide)⟩

end CourseAdvisor
