/-
This file proves that a success is read back from every text that it is written as.
-/

import CourseAdvisor.Http.Service
import CourseAdvisor.Proofs.Json.PrettyText
import CourseAdvisor.Proofs.Recommendation.ResponseText

namespace CourseAdvisor.Response

/-- This is the payload of a success, with the members of its objects in the order of their
keys. -/
def successPayload (recommendations : List Recommendation) : Json :=
  .object [
    ("recommendations", .list (recommendations.map fun recommendation => .object [
      ("courseId", .text recommendation.courseId.text), ("reason", .text recommendation.reason),
      ("title", .text recommendation.title)])),
    ("status", .text "success")]

theorem sorted_success (recommendations : List Recommendation) :
    (success recommendations).toJson.sorted = successPayload recommendations := by
  simp only [sorted_toJson, success, successPayload, Recommendation.sorted_toJson]

/-- The shape check lets every success through, so that it is answered. The compact text, the
indented text and the text of the payload are decoded as the same success. -/
theorem success_readable (recommendations : List Recommendation) :
    (success recommendations).payload = .ok (successPayload recommendations) ∧
      Http.recommendationsReply (.ok recommendations) =
        .json 200 (successPayload recommendations) ∧
      Json.decode format.read (success recommendations).toJson.compactText =
        .ok ⟨"success", recommendations⟩ ∧
      Json.decode format.read (success recommendations).toJson.prettyText =
        .ok ⟨"success", recommendations⟩ ∧
      Json.decode format.read (successPayload recommendations).compactText =
        .ok ⟨"success", recommendations⟩ := by
  have payload : (success recommendations).payload = .ok (successPayload recommendations) := by
    rw [payload_eq, sorted_success]
  have nothing : ∀ char ∈ "".toList, Json.isBlank char = true := by simp
  have indented := (reads (success recommendations)).decoded_pretty nothing
  have sorted := (reads_sorted (success recommendations)).decoded
  rw [String.append_empty] at indented
  rw [sorted_success] at sorted
  refine ⟨payload, ?_, (reads (success recommendations)).decoded, indented, sorted⟩
  simp only [Http.recommendationsReply, payload]

end CourseAdvisor.Response
