/-
This file proves that replies show nothing of a snapshot but what belongs to the one who asks.
-/

import CourseAdvisor.Http.Service
import CourseAdvisor.Proofs.Advice.Advising
import CourseAdvisor.Proofs.Http.Identity

namespace CourseAdvisor

/-- Two snapshots agree for a learner on what is published and on the learner's own completed
enrollments and results, each in the order of the snapshot. -/
structure Snapshot.AgreeFor (learner : LearnerId) (first second : Snapshot) : Prop where
  published : first.courses.filter (·.isPublished) = second.courses.filter (·.isPublished)
  completed :
    (first.enrollments.filter fun enrollment =>
        enrollment.completed && enrollment.studentId == learner) =
      second.enrollments.filter fun enrollment =>
        enrollment.completed && enrollment.studentId == learner
  results : first.challengeResults.filter (·.userId == learner) =
    second.challengeResults.filter (·.userId == learner)

/-- Snapshots that agree for a learner give the learner the same context. -/
theorem Snapshot.AgreeFor.context {learner : LearnerId} {first second : Snapshot}
    (agree : AgreeFor learner first second) :
    first.store.context learner = second.store.context learner := by
  rw [store_context, store_context]
  unfold completedEnrollments publishedCourses resultsOf
  rw [agree.published, agree.completed, agree.results]

namespace Http

/-- This service answers from a snapshot. -/
def Service.ofSnapshot (snapshot : Snapshot) (rules : RuleSet) (uptimeSeconds : Nat) : Service :=
  ⟨⟨snapshot.store, rules⟩, uptimeSeconds⟩

namespace Service

variable {first second : Service} {request : Request}

/-- The route of the recommendations asks the advisor for the learner of the request alone. -/
theorem recommendations_congr
    (same : ∀ learner, request.Carries learner →
      first.advisor.recommend learner = second.advisor.recommend learner) :
    first.recommendations request = second.recommendations request := by
  unfold recommendations
  cases known : request.learner? with
  | none => rfl
  | some learner =>
      dsimp only
      rw [same learner (Request.learner?_eq_some.mp known)]

/-- A service acts on its replies through its rule names, its uptime and the advice to the learner
of the request alone. -/
theorem respond_congr (names : first.advisor.rules.names = second.advisor.rules.names)
    (uptime : first.uptimeSeconds = second.uptimeSeconds)
    (same : ∀ learner, request.Carries learner →
      first.advisor.recommend learner = second.advisor.recommend learner) :
    first.respond request = second.respond request := by
  have health : first.healthReply = second.healthReply := by rw [healthReply, healthReply, uptime]
  have rules : first.rulesReply = second.rulesReply := by rw [rulesReply, rulesReply, names]
  unfold respond
  rw [health, rules, recommendations_congr same]

/-- An anonymous request gets the same reply whatever the snapshot is. A request that carries the id
of a learner gets the same reply from snapshots that agree for that learner. This holds for every
method, target and header list, and what is read and applied is the same as well. -/
theorem respond_confined (rules : RuleSet) (uptimeSeconds : Nat) (request : Request)
    (first second : Snapshot) :
    (request.Anonymous →
        (ofSnapshot first rules uptimeSeconds).respond request =
          (ofSnapshot second rules uptimeSeconds).respond request) ∧
      ∀ learner, request.Carries learner → Snapshot.AgreeFor learner first second →
        (ofSnapshot first rules uptimeSeconds).respond request =
          (ofSnapshot second rules uptimeSeconds).respond request := by
  constructor
  · intro anonymous
    refine respond_congr rfl rfl fun learner carries => ?_
    have unknown := Request.learner?_eq_none.mpr anonymous
    have known := Request.learner?_eq_some.mpr carries
    cases unknown.symm.trans known
  · intro learner carries agree
    refine respond_congr rfl rfl fun other carriesOther => ?_
    have known := Request.learner?_eq_some.mpr carries
    have knownOther := Request.learner?_eq_some.mpr carriesOther
    obtain rfl := Option.some.inj (known.symm.trans knownOther)
    exact Advisor.recommend_congr agree.context rules

/-- This request names two learners, of whom the first counts. -/
def doubledRequest : Request where
  method := "GET"
  target := "/api/recommendations"
  headers := [("X-Learner-Id", [0x75, 0x31]), ("x-learner-id", [0x75, 0x32])]

/-- This request names nobody. -/
def namelessRequest : Request := { doubledRequest with headers := [] }

/-- This snapshot holds one learner. -/
def lonelySnapshot : Snapshot where
  courses := [.new ⟨"A"⟩ "Intro" .beginner,
    (Course.new ⟨"B"⟩ "Next" .advanced).withPrerequisite ⟨"A"⟩]
  enrollments := [⟨⟨"u1"⟩, ⟨"A"⟩, true⟩]
  challengeResults := [⟨⟨"u1"⟩, .zero, "Rust"⟩]

/-- This snapshot adds another learner, an enrollment in progress and a course that is not
published. -/
def crowdedSnapshot : Snapshot where
  courses := (Course.new ⟨"B"⟩ "Draft" .advanced).unpublished :: lonelySnapshot.courses
  enrollments := [⟨⟨"u2"⟩, ⟨"B"⟩, true⟩, ⟨⟨"u1"⟩, ⟨"A"⟩, true⟩, ⟨⟨"u1"⟩, ⟨"B"⟩, false⟩]
  challengeResults := [⟨⟨"u1"⟩, .zero, "Rust"⟩, ⟨⟨"u2"⟩, .zero, "Go"⟩]

/-- The first learner cannot tell the snapshots apart, and nobody sees either of them. -/
theorem crowdedSnapshot_hidden :
    doubledRequest.Carries ⟨"u1"⟩ ∧ namelessRequest.Anonymous ∧
      Snapshot.AgreeFor ⟨"u1"⟩ lonelySnapshot crowdedSnapshot ∧
      lonelySnapshot ≠ crowdedSnapshot ∧
      (ofSnapshot lonelySnapshot (.standard .standard) 0).respond doubledRequest =
        (ofSnapshot crowdedSnapshot (.standard .standard) 0).respond doubledRequest ∧
      (ofSnapshot lonelySnapshot (.standard .standard) 0).respond namelessRequest =
        (ofSnapshot crowdedSnapshot (.standard .standard) 0).respond namelessRequest := by
  have carries : doubledRequest.Carries ⟨"u1"⟩ :=
    Request.learner?_eq_some.mp (by decide +kernel)
  have anonymous : namelessRequest.Anonymous :=
    Request.learner?_eq_none.mp (by decide +kernel)
  have agree : Snapshot.AgreeFor ⟨"u1"⟩ lonelySnapshot crowdedSnapshot :=
    ⟨by decide +kernel, by decide +kernel, by decide +kernel⟩
  have named := (respond_confined (.standard .standard) 0 doubledRequest lonelySnapshot
    crowdedSnapshot).2 ⟨"u1"⟩ carries agree
  have nameless := (respond_confined (.standard .standard) 0 namelessRequest lonelySnapshot
    crowdedSnapshot).1 anonymous
  exact ⟨carries, anonymous, agree, by decide +kernel, named, nameless⟩

end Service

end Http

end CourseAdvisor
