/-
This file proves how every request for recommendations is answered.
-/

import CourseAdvisor.Http.Service
import CourseAdvisor.Proofs.Advice.Advising
import CourseAdvisor.Proofs.Http.Identity
import CourseAdvisor.Proofs.Recommendation.ResponseText

namespace CourseAdvisor.Http

/-- This is the body of every failure, whatever its cause. -/
def failureBody : String :=
  "\x7b\"status\":\"error\",\"message\":\"Failed to compute recommendations\"\x7d"

/-- A reply fits an answer when it tells the recommendations, or the kind of the failure alone. -/
def Reply.Fits (reply : Reply) : Except StoreError (List Recommendation) → Prop
  | .ok recommendations =>
      reply.status = 200 ∧
        Json.decode Response.format.read reply.body = .ok ⟨"success", recommendations⟩
  | .error (.unavailable _) => reply.status = 503 ∧ reply.body = failureBody
  | .error _ => reply.status = 500 ∧ reply.body = failureBody

/-- The reply to an answer fits it. -/
theorem recommendationsReply_fits (answer : Except StoreError (List Recommendation)) :
    (recommendationsReply answer).Fits answer := by
  cases answer with
  | error error =>
      have body : (recommendationsReply (.error error)).body = failureBody := by
        change (Json.object [("status", .text "error"),
          ("message", .text "Failed to compute recommendations")]).compactText = failureBody
        decide
      cases error <;> exact ⟨rfl, body⟩
  | ok recommendations =>
      rw [recommendationsReply, Response.payload_eq]
      exact ⟨rfl, (Response.reads_sorted _).decoded⟩

/-- A reply that fits an answer does not ask for an identity. -/
theorem Reply.Fits.status {reply : Reply} {answer : Except StoreError (List Recommendation)}
    (fits : reply.Fits answer) : reply.status ≠ 401 := by
  unfold Reply.Fits at fits
  split at fits <;> simp [fits.1]

namespace Service

variable (service : Service) {request : Request}

/-- A request for recommendations is answered by its own route. -/
theorem respond_routed (isGet : request.method = "GET")
    (routed : request.route? = some .recommendations) :
    service.respond request = service.recommendations request := by
  have notOptions : request.method ≠ "OPTIONS" := by
    rw [isGet]
    decide
  rw [respond, if_neg notOptions, routed]

/-- Without a learner nothing is read and no rule is applied. -/
theorem recommendations_anonymous (isGet : request.method = "GET")
    (unknown : request.learner? = none) :
    service.recommendations request = ⟨[], .bare 401 []⟩ := by
  have reads : request.isReading = true := by simp [Request.isReading, isGet]
  simp [recommendations, unknown, reads]

/-- With a learner the advisor is asked once. -/
theorem recommendations_carried (isGet : request.method = "GET") {learner : LearnerId}
    (known : request.learner? = some learner) :
    service.recommendations request =
      ⟨(service.advisor.recommend learner).events,
        recommendationsReply (service.advisor.recommend learner).value⟩ := by
  have reads : request.isReading = true := by simp [Request.isReading, isGet]
  simp [recommendations, known, reading, reads, Reply.forMethod, isGet]

/-- A request is refused exactly when it is anonymous, and then nothing happens. Otherwise it
carries the id of a learner, and the reply fits the advice to that learner. -/
theorem respond_recommendations (isGet : request.method = "GET")
    (routed : request.route? = some .recommendations) :
    ((service.respond request).value.status = 401 ↔ request.Anonymous) ∧
      (request.Anonymous → (service.respond request).events = []) ∧
      (¬request.Anonymous → ∃ learner, request.Carries learner) ∧
      ∀ learner, request.Carries learner →
        (service.respond request).events = (service.advisor.recommend learner).events ∧
          (service.respond request).value.Fits (service.advisor.recommend learner).value := by
  rw [service.respond_routed isGet routed, ← Request.learner?_eq_none]
  simp only [← Request.learner?_eq_some]
  cases known : request.learner? with
  | none =>
      rw [service.recommendations_anonymous isGet known]
      simp [Reply.bare]
  | some learner =>
      rw [service.recommendations_carried isGet known]
      have fits := recommendationsReply_fits (service.advisor.recommend learner).value
      simp [fits, fits.status]

/-- This request names a learner between padding, and repeats the header afterwards. -/
def paddedRequest : Request where
  method := "GET"
  target := "/api/recommendations?page=1"
  headers := [("accept", [0x2a]), ("X-Learner-ID", [0x20, 0x75, 0x31, 0x09]),
    ("x-learner-id", [0xff])]

/-- One read of this service always fails. -/
def brokenService : Service where
  advisor := ⟨Snapshot.empty.store.failing (.unavailable "offline") .results, .standard .standard⟩
  uptimeSeconds := 0

/-- The learner has no history, and is still told that the store is unavailable. -/
theorem brokenService_unavailable :
    paddedRequest.method = "GET" ∧ paddedRequest.route? = some .recommendations ∧
      paddedRequest.Carries ⟨"u1"⟩ ∧
      (brokenService.respond paddedRequest).events =
        [.read .enrollments, .read .courses, .read .results] ∧
      (brokenService.respond paddedRequest).value.status = 503 ∧
      (brokenService.respond paddedRequest).value.body = failureBody := by
  have routed : paddedRequest.route? = some .recommendations := by decide +kernel
  have carried : paddedRequest.Carries ⟨"u1"⟩ := Request.learner?_eq_some.mp (by decide +kernel)
  obtain ⟨_, _, _, answered⟩ := respond_recommendations brokenService rfl routed
  obtain ⟨events, status, body⟩ := answered ⟨"u1"⟩ carried
  exact ⟨rfl, routed, carried, events, status, body⟩

end Service

end CourseAdvisor.Http
