/-
This file proves that the shape check reports the first of all violations, in a fixed order of the
places, and that it looks at nothing else.
-/

import Mathlib.Data.List.Find
import CourseAdvisor.Proofs.Recommendation.PlaceText
import CourseAdvisor.Proofs.Recommendation.ShapeAgreement

namespace CourseAdvisor

open Json

def Kind.fits : Kind → Json → Bool
  | .object, .object _ | .list, .list _ | .text, .text _ => true
  | _, _ => false

theorem Kind.fits_text : Kind.text.fits = isText := by
  funext value
  cases value <;> rfl

/-- A violation occurs when its place is missing or holds something of another kind. -/
def Violation.occursIn (value : Json) (violation : Violation) : Bool :=
  !(violation.place.find? value).any violation.expected.fits

namespace Response

/-- The entry itself comes before its required fields. -/
def entryViolations (index : Nat) : List Violation :=
  ⟨.entry index, .object⟩ :: requiredKeys.map fun key => ⟨.field index key, .text⟩

/-- These are the violations that a value with so many entries can have: first at the root, then at
the list, and then entry by entry. -/
def violations (count : Nat) : List Violation :=
  ⟨.root, .object⟩ :: ⟨.recommendations, .list⟩ :: (List.range count).flatMap entryViolations

/-- A value that is no object with a list has no entries. -/
def entriesOf (value : Json) : List Json :=
  match value.member? "recommendations" with
  | some (.list entries) => entries
  | _ => []

variable {value : Json}

theorem find?_entry {index : Nat} :
    (Place.entry index).find? value = (entriesOf value)[index]? := by
  rw [Place.find?, entriesOf, Place.steps, List.foldlM_cons, Step.find?]
  cases value.member? "recommendations" with
  | none => rfl
  | some list => cases list <;> simp [Step.find?]

theorem find?_field {index : Nat} {key : String} :
    (Place.field index key).find? value = (entriesOf value)[index]?.bind (Json.member? key) := by
  rw [← find?_entry]
  simp [Place.find?, Place.steps, Step.find?, Option.bind_assoc]

/-- The first violation of an entry is the first one that occurs there. -/
theorem entryViolation?_eq {index : Nat} {entry : Json}
    (stands : (entriesOf value)[index]? = some entry) :
    entryViolation? index entry = (entryViolations index).find? (·.occursIn value) := by
  have atEntry : Violation.occursIn value ⟨.entry index, .object⟩ = !Kind.object.fits entry := by
    rw [Violation.occursIn, find?_entry, stands, Option.any_some]
  have atField (key : String) : Violation.occursIn value ⟨.field index key, .text⟩ =
      !(entry.member? key).any isText := by
    rw [Violation.occursIn, find?_field, stands, Option.bind_some, Kind.fits_text]
  cases entry with
  | null | boolean | integer | number | text | list =>
      exact (List.find?_cons_of_pos atEntry).symm
  | object fields =>
      have passed : ¬Violation.occursIn value ⟨.entry index, .object⟩ = true := by
        rw [atEntry]
        exact Bool.false_ne_true
      rw [entryViolations, List.find?_cons_of_neg passed, List.find?_map]
      simp only [Function.comp_def, atField]
      rfl

/-- From a place on, the first violation of the entries is the first one that occurs there. -/
theorem entriesViolation?_eq {index : Nat} {entries : List Json}
    (rest : (entriesOf value).drop index = entries) :
    entriesViolation? index entries =
      ((List.range' index entries.length).flatMap entryViolations).find? (·.occursIn value) := by
  -- The entries that are left are those from the index on, so the index is that of the first.
  induction entries generalizing index with
  | nil => rfl
  | cons entry entries ih =>
      have stands : (entriesOf value)[index]? = some entry := by
        rw [← List.head?_drop, rest, List.head?_cons]
      have later : (entriesOf value).drop (index + 1) = entries := by
        rw [← List.tail_drop, rest, List.tail_cons]
      rw [entriesViolation?, entryViolation?_eq stands, ih later, List.length_cons,
        List.range'_succ, List.flatMap_cons, List.find?_append, Option.orElse_eq_orElse,
        Option.orElse_eq_or]

/-- The check reports the first of the possible violations that occurs. -/
theorem violation?_eq (value : Json) :
    violation? value = (violations (entriesOf value).length).find? (·.occursIn value) := by
  cases value with
  | null | boolean | integer | number | text | list => rfl
  | object members =>
      have atList : Violation.occursIn (.object members) ⟨.recommendations, .list⟩ =
          !(members.lookup "recommendations").any Kind.list.fits := by
        rw [Violation.occursIn]
        simp [Place.find?, Place.steps, Step.find?, Json.member?]
      rw [violations, List.find?_cons_of_neg Bool.false_ne_true, violation?]
      cases found : members.lookup "recommendations" with
      | none => exact (List.find?_cons_of_pos (by rw [atList, found]; rfl)).symm
      | some list =>
          cases list with
          | null | boolean | integer | number | text | object =>
              exact (List.find?_cons_of_pos (by rw [atList, found]; rfl)).symm
          | list entries =>
              have all : entriesOf (.object members) = entries := by
                rw [entriesOf, Json.member?, found]
              have passed :
                  ¬Violation.occursIn (.object members) ⟨.recommendations, .list⟩ = true := by
                rw [atList, found]
                exact Bool.false_ne_true
              rw [List.find?_cons_of_neg passed, all, List.range_eq_range']
              exact entriesViolation?_eq (by rw [all, List.drop_zero])

/-- A violation is reported when it occurs and none that comes earlier does. -/
theorem violation?_eq_some {violation : Violation} :
    violation? value = some violation ↔
      ∃ earlier later, violations (entriesOf value).length = earlier ++ violation :: later ∧
        violation.occursIn value = true ∧ ∀ other ∈ earlier, other.occursIn value = false := by
  rw [violation?_eq, List.find?_eq_some_iff_append]
  simp only [Bool.not_eq_eq_eq_not, Bool.not_true]
  constructor
  · rintro ⟨occurs, earlier, later, split, before⟩
    exact ⟨earlier, later, split, occurs, before⟩
  · rintro ⟨earlier, later, split, occurs, before⟩
    exact ⟨occurs, earlier, later, split, before⟩

/-- These are the parts of a response. -/
inductive Part where
  | response
  | entries
  | entry
  | text

namespace Part

/-- This part is asked for under the key, if any is. -/
def member? : Part → String → Option Part
  | .response, key => if key = "recommendations" then some .entries else none
  | .entry, key => if key ∈ requiredKeys then some .text else none
  | _, _ => none

def item : Part → Part
  | .entries => .entry
  | _ => .text

/-- These values differ, at any depth, only in members that are not asked for and in the order of
members. -/
inductive Variant : Part → Json → Json → Prop
  | refl (part : Part) (value : Json) : Variant part value value
  | symm {part : Part} {value other : Json} (same : Variant part value other) :
      Variant part other value
  | trans {part : Part} {value between other : Json} (first : Variant part value between)
      (second : Variant part between other) : Variant part value other
  | item {part : Part} {value other : Json} (before after : List Json)
      (same : Variant part.item value other) :
      Variant part (.list (before ++ value :: after)) (.list (before ++ other :: after))
  | member {part inner : Part} {key : String} {value other : Json}
      (before after : List (String × Json)) (asked : part.member? key = some inner)
      (same : Variant inner value other) :
      Variant part (.object (before ++ (key, value) :: after))
        (.object (before ++ (key, other) :: after))
  | extra {part : Part} {key : String} (value : Json) (before after : List (String × Json))
      (unasked : part.member? key = none) :
      Variant part (.object (before ++ (key, value) :: after)) (.object (before ++ after))
  | order (part : Part) {members others : List (String × Json)}
      (distinct : (members.map Prod.fst).Nodup) (reordered : members.Perm others) :
      Variant part (.object members) (.object others)

/-- This is what the check finds in a part, when the entry in question stands at the index. Of a
text it only matters whether it is one, so its violation needs no place of its own. -/
def verdict : Part → Json → Nat → Option Violation
  | .response, value, _ => violation? value
  | .entries, .list items, index => entriesViolation? index items
  | .entries, _, _ => some ⟨.recommendations, .list⟩
  | .entry, item, index => entryViolation? index item
  | .text, value, _ => if value.isText then none else some ⟨.root, .text⟩

theorem any_isText (found : Option Json) :
    found.any isText = (found.map Part.text.verdict).any fun verdict => (verdict 0).isNone := by
  cases found with
  | none => rfl
  | some value => cases value <;> rfl

/-- Objects get one verdict when the members that are asked for do. -/
theorem verdict_object {part : Part} {members others : List (String × Json)}
    (same : ∀ key inner, part.member? key = some inner →
      (members.lookup key).map inner.verdict = (others.lookup key).map inner.verdict) :
    part.verdict (.object members) = part.verdict (.object others) := by
  funext index
  cases part with
  | entries | text => rfl
  | entry =>
      have texts : ∀ key ∈ requiredKeys,
          (members.lookup key).any isText = (others.lookup key).any isText := by
        intro key isRequired
        rw [any_isText, any_isText, same key .text (if_pos isRequired)]
      rw [verdict, verdict, entryViolation?, entryViolation?,
        List.find?_congr fun key isRequired => congrArg not (texts key isRequired)]
  | response =>
      have found (members : List (String × Json)) : violation? (.object members) =
          ((members.lookup "recommendations").map Part.entries.verdict).elim
            (some ⟨.recommendations, .list⟩) fun verdict => verdict 0 := by
        rw [violation?]
        cases members.lookup "recommendations" with
        | none => rfl
        | some list => cases list <;> rfl
      rw [verdict, verdict, found, found, same "recommendations" .entries rfl]

/-- One entry can stand for another with the same violation. -/
theorem entriesViolation?_replaced {entry other : Json} (before after : List Json)
    (same : Part.entry.verdict entry = Part.entry.verdict other) (index : Nat) :
    entriesViolation? index (before ++ entry :: after) =
      entriesViolation? index (before ++ other :: after) := by
  induction before generalizing index with
  | nil =>
      have first : entryViolation? index entry = entryViolation? index other := congrFun same index
      rw [List.nil_append, List.nil_append, entriesViolation?, entriesViolation?, first]
  | cons head before ih =>
      rw [List.cons_append, List.cons_append, entriesViolation?, entriesViolation?, ih]

/-- Distinct keys are found in any order. -/
theorem lookup_perm {members others : List (String × Json)}
    (distinct : (members.map Prod.fst).Nodup) (reordered : members.Perm others) (key : String) :
    members.lookup key = others.lookup key := by
  ext value
  have otherDistinct := (reordered.map Prod.fst).nodup_iff.mp distinct
  rw [Json.lookup_eq_some distinct, Json.lookup_eq_some otherDistinct, reordered.mem_iff]

/-- A member is not seen under other keys. -/
theorem lookup_other {key other : String} (isOther : key ≠ other) (value : Json)
    (before after : List (String × Json)) :
    (before ++ (other, value) :: after).lookup key = (before ++ after).lookup key := by
  rw [List.lookup_append, List.lookup_append, List.lookup_cons, beq_false_of_ne isOther]

/-- Variants get one verdict. -/
theorem Variant.verdict_eq {part : Part} {value other : Json}
    (same : part.Variant value other) : part.verdict value = part.verdict other := by
  -- A change of members comes down to what is found under the keys that are asked for.
  induction same with
  | refl => rfl
  | symm _ ih => exact ih.symm
  | trans _ _ first second => exact first.trans second
  | @item part _ _ before after _ ih =>
      cases part with
      | response | entry | text => rfl
      | entries => exact funext (entriesViolation?_replaced before after ih)
  | @member part inner key value other before after asked _ ih =>
      apply verdict_object
      intro searched wanted isWanted
      by_cases isKey : searched = key
      · subst isKey
        obtain rfl := Option.some.inj (asked.symm.trans isWanted)
        rw [List.lookup_append, List.lookup_append, List.lookup_cons_self, List.lookup_cons_self]
        cases before.lookup searched with
        | none => exact congrArg some ih
        | some found => rfl
      · rw [lookup_other isKey, lookup_other isKey]
  | @extra part key value before after unasked =>
      apply verdict_object
      intro searched wanted isWanted
      have isOther : searched ≠ key := by
        rintro rfl
        rw [unasked] at isWanted
        cases isWanted
      rw [lookup_other isOther]
  | order part distinct reordered =>
      apply verdict_object
      intro searched wanted _
      rw [lookup_perm distinct reordered]

end Part

/-- The check passes exactly the objects with a list of entries that have all the required texts.
Otherwise it reports the first of the possible violations that occurs, at a place that is read back
from its text. What is not asked for makes no difference, nor does the order of members. -/
theorem violation?_exact (value : Json) :
    (violation? value = none ↔
      ∃ members entries, value = .object members ∧
        members.lookup "recommendations" = some (.list entries) ∧
        ∀ entry ∈ entries, ∃ fields, entry = .object fields ∧
          ∀ key ∈ ["courseId", "title", "reason"],
            ∃ content, fields.lookup key = some (.text content)) ∧
    (∀ violation, violation? value = some violation ↔
      ∃ earlier later, violations (entriesOf value).length = earlier ++ violation :: later ∧
        violation.occursIn value = true ∧ ∀ other ∈ earlier, other.occursIn value = false) ∧
    (∀ place : Place, place.text = "$" ++ String.join (place.steps.map Step.text) ∧
      Place.ofText? place.text = some place) ∧
    ∀ other, Part.response.Variant value other → violation? other = violation? value := by
  refine ⟨?_, fun _ => violation?_eq_some, fun place => ⟨place.text_eq_steps, place.ofText?_text⟩,
    fun other same => (congrFun same.verdict_eq 0).symm⟩
  simp only [violation?_eq_none, entriesHold_iff, standsIn_iff, requiredKeys]
  constructor
  · rintro ⟨entries, found, all⟩
    cases value with
    | null | boolean | integer | number | text | list => cases found
    | object members => exact ⟨members, entries, rfl, found, all⟩
  · rintro ⟨members, entries, rfl, found, all⟩
    exact ⟨entries, found, all⟩

/-- The second entry has no text as its title and no reason, and the third is no object. -/
def untidyValue : Json := .object [
  ("status", .integer 7),
  ("recommendations", .list [
    .object [("reason", .text "r"), ("rank", .list []), ("courseId", .text "A"),
      ("title", .text "Intro")],
    .object [("courseId", .text "B"), ("title", .boolean true)],
    .null])]

/-- The same entries stand here in another order of members, without the status and the rank. -/
def tidiedValue : Json := .object [
  ("recommendations", .list [
    .object [("reason", .text "r"), ("courseId", .text "A"), ("title", .text "Intro")],
    .object [("title", .boolean true), ("courseId", .text "B")],
    .null])]

/-- Both are refused for the title of the second entry. -/
theorem untidyValue_refused :
    Part.response.Variant untidyValue tidiedValue ∧
      violation? untidyValue = some ⟨.field 1 "title", .text⟩ ∧
      violation? tidiedValue = some ⟨.field 1 "title", .text⟩ := by
  have same : Part.response.Variant untidyValue tidiedValue :=
    .trans (.extra _ [] _ rfl) <| .member [] [] rfl <|
      .trans (.item [] _ (.extra _ [_] _ rfl)) <|
        .item [_] [_] (.order _ (by decide) (.swap _ _ _))
  obtain ⟨_, first, _, variants⟩ := violation?_exact untidyValue
  have refused : violation? untidyValue = some ⟨.field 1 "title", .text⟩ :=
    (first _).mpr ⟨⟨.root, .object⟩ :: ⟨.recommendations, .list⟩ :: entryViolations 0 ++
      [⟨.entry 1, .object⟩, ⟨.field 1 "courseId", .text⟩], _, rfl, rfl, by decide⟩
  exact ⟨same, refused, (variants tidiedValue same).trans refused⟩

end Response

end CourseAdvisor
