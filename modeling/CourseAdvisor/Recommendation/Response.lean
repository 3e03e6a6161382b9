/-
This file defines the response that carries recommendations, and checks its shape.
-/

import CourseAdvisor.Recommendation.Basic

namespace CourseAdvisor

/-- A response that was computed has the status of a success. -/
structure Response where
  status : String
  recommendations : List Recommendation
  deriving DecidableEq

namespace Response

def success (recommendations : List Recommendation) : Response := ⟨"success", recommendations⟩

open Json in
/-- This is how responses are read. -/
def format : RecordFormat Response where
  name := "RecommendationsResponse"
  blank := ⟨"", []⟩
  fields := [
    .required "status" readText fun status response => { response with status },
    .required "recommendations" (readList Recommendation.format.read)
      fun recommendations response => { response with recommendations }]

def toJson (response : Response) : Json :=
  .object [("status", .text response.status),
    ("recommendations", .list (response.recommendations.map Recommendation.toJson))]

end Response

/-- A place leads from the root of a response to one of its values. -/
inductive Place where
  | root
  | recommendations
  | entry (index : Nat)
  | field (index : Nat) (key : String)
  deriving DecidableEq

def Place.text : Place → String
  | .root => "$"
  | .recommendations => "$.recommendations"
  | .entry index => s!"$.recommendations[{index}]"
  | .field index key => s!"$.recommendations[{index}].{key}"

/-- This is what must stand at a place. -/
inductive Kind where
  | object
  | list
  | text
  deriving DecidableEq

def Kind.name : Kind → String
  | .object => "object"
  | .list => "array"
  | .text => "string"

/-- A shape is violated where a value is missing or of the wrong kind. -/
structure Violation where
  place : Place
  expected : Kind
  deriving DecidableEq

def Violation.message (violation : Violation) : String :=
  "invalid response shape at " ++ violation.place.text ++ ": expected " ++ violation.expected.name

namespace Response

/-- Every entry must have a text under each of these keys. -/
def requiredKeys : List String := ["courseId", "title", "reason"]

/-- The entry itself is checked before its fields. -/
def entryViolation? (index : Nat) : Json → Option Violation
  | .object members =>
      (requiredKeys.find? fun key => !(members.lookup key).any Json.isText).map
        fun key => ⟨.field index key, .text⟩
  | _ => some ⟨.entry index, .object⟩

/-- The first violation of the earliest entry counts. -/
def entriesViolation? (index : Nat) : List Json → Option Violation
  | [] => none
  | entry :: rest => entryViolation? index entry <|> entriesViolation? (index + 1) rest

/-- This is the first violation of the shape that a response must have. -/
def violation? : Json → Option Violation
  | .object members =>
      match members.lookup "recommendations" with
      | some (.list entries) => entriesViolation? 0 entries
      | _ => some ⟨.recommendations, .list⟩
  | _ => some ⟨.root, .object⟩

/-- A payload leaves with sorted members, and only when its shape is right. -/
def payload (response : Response) : Except Violation Json :=
  let value := response.toJson.sorted
  match violation? value with
  | some violation => .error violation
  | none => .ok value

end Response

end CourseAdvisor
