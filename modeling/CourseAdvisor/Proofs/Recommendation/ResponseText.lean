/-
This file proves that the payload of a success is well shaped and tells its recommendations.
-/

import CourseAdvisor.Proofs.Json.Members
import CourseAdvisor.Recommendation.Response

namespace CourseAdvisor

open Json RecordFormat

theorem Json.sortedItems_map (items : List Json) : sortedItems items = items.map sorted := by
  induction items with
  | nil => rfl
  | cons item items ih => rw [sortedItems, ih, List.map_cons]

namespace Recommendation

/-- A recommendation is read from what it is written as. -/
theorem reads (recommendation : Recommendation) :
    Reads format.read recommendation.toJson.tokens recommendation := by
  have members : List.Forall₂ format.ReadsMember
      [("courseId", (Json.text recommendation.courseId.text).tokens),
        ("title", (Json.text recommendation.title).tokens),
        ("reason", (Json.text recommendation.reason).tokens)] _ :=
    .cons (readsMember_required rfl (.text _)) <|
      .cons (readsMember_required rfl (.text _)) <|
        .cons (readsMember_required rfl (.text _)) .nil
  exact .object members (.filter _ (by simp)) (by simp [format, Field.required])

/-- The reason comes before the title when members are sorted. -/
theorem sorted_toJson (recommendation : Recommendation) :
    recommendation.toJson.sorted =
      .object [("courseId", .text recommendation.courseId.text),
        ("reason", .text recommendation.reason), ("title", .text recommendation.title)] := by
  have before : "courseId" < "reason" ∧ ¬"title" < "reason" := by decide
  simp [toJson, sorted, sortedMembers, placeMember, before]

/-- A recommendation is read from its sorted members. -/
theorem reads_sorted (recommendation : Recommendation) :
    Reads format.read recommendation.toJson.sorted.tokens recommendation := by
  rw [sorted_toJson]
  have members : List.Forall₂ format.ReadsMember
      [("courseId", (Json.text recommendation.courseId.text).tokens),
        ("reason", (Json.text recommendation.reason).tokens),
        ("title", (Json.text recommendation.title).tokens)] _ :=
    .cons (readsMember_required rfl (.text _)) <|
      .cons (readsMember_required rfl (.text _)) <|
        .cons (readsMember_required rfl (.text _)) .nil
  exact .object members (.filter _ (by simp)) (by simp [format, Field.required])

end Recommendation

namespace Response

/-- A response is read from what it is written as. -/
theorem reads (response : Response) : Reads format.read response.toJson.tokens response := by
  have recommendations := Reads.written
    fun recommendation (_ : recommendation ∈ response.recommendations) => recommendation.reads
  have members : List.Forall₂ format.ReadsMember
      [("status", (Json.text response.status).tokens),
        ("recommendations",
          (Json.list (response.recommendations.map Recommendation.toJson)).tokens)] _ :=
    .cons (readsMember_required rfl (.text _)) <|
      .cons (readsMember_required rfl recommendations) .nil
  exact .object members (.filter _ (by simp)) (by simp [format, Field.required])

/-- The recommendations come before the status when members are sorted. -/
theorem sorted_toJson (response : Response) :
    response.toJson.sorted =
      .object [("recommendations",
          .list (response.recommendations.map fun recommendation => recommendation.toJson.sorted)),
        ("status", .text response.status)] := by
  have before : ¬"status" < "recommendations" := by decide
  simp [toJson, sorted, sortedMembers, placeMember, before, sortedItems_map]

/-- A response is read from its sorted members. -/
theorem reads_sorted (response : Response) :
    Reads format.read response.toJson.sorted.tokens response := by
  rw [sorted_toJson]
  have recommendations := Reads.written
    fun recommendation (_ : recommendation ∈ response.recommendations) =>
      recommendation.reads_sorted
  have members : List.Forall₂ format.ReadsMember
      [("recommendations", (Json.list (response.recommendations.map
          fun recommendation => recommendation.toJson.sorted)).tokens),
        ("status", (Json.text response.status).tokens)] _ :=
    .cons (readsMember_required rfl recommendations) <|
      .cons (readsMember_required rfl (.text _)) .nil
  exact .object members (.filter _ (by simp)) (by simp [format, Field.required])

/-- Every written recommendation has the required texts. -/
theorem entriesViolation?_sorted (index : Nat) (recommendations : List Recommendation) :
    entriesViolation? index
      (recommendations.map fun recommendation => recommendation.toJson.sorted) = none := by
  induction recommendations generalizing index with
  | nil => rfl
  | cons recommendation rest ih =>
      rw [List.map_cons, entriesViolation?, ih, Recommendation.sorted_toJson]
      rfl

/-- The shape check lets every response through. -/
theorem payload_eq (response : Response) : response.payload = .ok response.toJson.sorted := by
  have shaped : violation? response.toJson.sorted = none := by
    rw [sorted_toJson]
    exact entriesViolation?_sorted 0 response.recommendations
  rw [payload]
  simp only [shaped]

end Response

end CourseAdvisor
