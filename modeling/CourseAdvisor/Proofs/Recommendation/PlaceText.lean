/-
This file proves that the text of a place spells the steps to it, and that the place is read back
from its text.
-/

import CourseAdvisor.Proofs.Json.WrittenNumbers
import CourseAdvisor.Recommendation.Response

namespace CourseAdvisor

open Json

/-- A step leads from an object to one of its members, or from a list to one of its items. -/
inductive Step where
  | member (key : String)
  | item (index : Nat)

def Step.text : Step → String
  | .member key => "." ++ key
  | .item index => "[" ++ index.repr ++ "]"

def Step.find? : Step → Json → Option Json
  | .member key, value => value.member? key
  | .item index, .list items => items[index]?
  | .item _, _ => none

namespace Place

/-- These steps lead from the root to the place. -/
def steps : Place → List Step
  | .root => []
  | .recommendations => [.member "recommendations"]
  | .entry index => [.member "recommendations", .item index]
  | .field index key => [.member "recommendations", .item index, .member key]

/-- This is what stands at a place of a value, if anything does. -/
def find? (value : Json) (place : Place) : Option Json :=
  place.steps.foldlM (fun found step => step.find? found) value

theorem text_entry (index : Nat) :
    (Place.entry index).text = "$.recommendations[" ++ index.repr ++ "]" := rfl

theorem text_field (index : Nat) (key : String) :
    (Place.field index key).text = "$.recommendations[" ++ index.repr ++ "]." ++ key := rfl

/-- The text of a place spells its steps. -/
theorem text_eq_steps (place : Place) :
    place.text = "$" ++ String.join (place.steps.map Step.text) := by
  have front : "$.recommendations[" = "$" ++ ("." ++ "recommendations" ++ "[") := rfl
  have bracket : "]." = "]" ++ "." := rfl
  cases place with
  | root | recommendations => rfl
  | entry index =>
      rw [text_entry, front]
      simp only [steps, List.map_cons, List.map_nil, String.join_cons, String.join_nil, Step.text,
        String.append_assoc, String.append_empty]
  | field index key =>
      rw [text_field, front, bracket]
      simp only [steps, List.map_cons, List.map_nil, String.join_cons, String.join_nil, Step.text,
        String.append_assoc, String.append_empty]

/-- This reads a place back from its text. -/
def ofText? (text : String) : Option Place :=
  if text = "$" then some .root
  else if text = "$.recommendations" then some .recommendations
  else
    let behind := text.toList.drop "$.recommendations[".length
    let index := Nat.ofDigitChars 10 (behind.takeWhile Char.isDigit) 0
    match behind.dropWhile Char.isDigit with
    | [']'] => some (.entry index)
    | ']' :: '.' :: key => some (.field index (String.ofList key))
    | _ => none

/-- The index of an entry ends at its bracket, and what goes on behind tells the place. -/
theorem ofText?_inEntry {text : String} (index : Nat) (behind : List Char)
    (spelled : text.toList =
      "$.recommendations[".toList ++ (Nat.toDigits 10 index ++ ']' :: behind)) :
    ofText? text =
      match ']' :: behind with
      | [']'] => some (.entry index)
      | ']' :: '.' :: key => some (.field index (String.ofList key))
      | _ => none := by
  have longer (short : String) (isShort : short.length ≤ 17) : text ≠ short := by
    rintro rfl
    have front : "$.recommendations[".toList.length = 18 := rfl
    rw [← String.length_toList, spelled, List.length_append] at isShort
    omega
  have dropped : text.toList.drop "$.recommendations[".length =
      Nat.toDigits 10 index ++ ']' :: behind := by
    rw [spelled]
    exact List.drop_left' rfl
  have stop : Undigited (']' :: behind) := rfl
  have digits := (toDigits_run index).taken stop
  rw [ofText?, if_neg (longer _ (by decide)), if_neg (longer _ (by decide)), dropped]
  simp only [digits.1, digits.2, Nat.ofDigitChars_ten_toDigits]

/-- A place is read back from its text. -/
theorem ofText?_text (place : Place) : ofText? place.text = some place := by
  cases place with
  | root | recommendations => rfl
  | entry index =>
      refine ofText?_inEntry index [] ?_
      rw [text_entry, String.toList_append, String.toList_append, Nat.toList_repr,
        List.append_assoc]
      rfl
  | field index key =>
      refine (ofText?_inEntry index ('.' :: key.toList) ?_).trans ?_
      · rw [text_field, String.toList_append, String.toList_append, String.toList_append,
          Nat.toList_repr, List.append_assoc, List.append_assoc]
        rfl
      · exact congrArg (fun key => some (Place.field index key)) String.ofList_toList

end Place

end CourseAdvisor
