/-
This file proves that merging needs no slots and can be done in stages.
-/

import CourseAdvisor.Proofs.Advice.Advising
import CourseAdvisor.Proofs.Advice.Merging

namespace CourseAdvisor

open FirstOccurrences

/-- A candidate takes the place of the entry of its course, or else the place after all entries. -/
def placed (candidate : Recommendation) : List Recommendation → List Recommendation
  | [] => [candidate]
  | entry :: rest =>
      if entry.courseId = candidate.courseId then candidate :: rest
      else entry :: placed candidate rest

/-- This merges candidates by looking through the entries again for each of them. -/
def collapse (candidates : List Recommendation) : List Recommendation :=
  candidates.foldl (fun entries candidate => placed candidate entries) []

theorem collapse_concat (candidates : List Recommendation) (last : Recommendation) :
    collapse (candidates ++ [last]) = placed last (collapse candidates) := by
  rw [collapse, List.foldl_append]
  rfl

theorem placed_ids (candidate : Recommendation) (entries : List Recommendation) :
    (placed candidate entries).map (·.courseId) =
      if candidate.courseId ∈ entries.map (·.courseId) then entries.map (·.courseId)
      else entries.map (·.courseId) ++ [candidate.courseId] := by
  induction entries with
  | nil => simp [placed]
  | cons entry rest ih =>
      rw [placed]
      by_cases same : entry.courseId = candidate.courseId
      · simp [same]
      · have different : candidate.courseId ≠ entry.courseId := fun equal => same equal.symm
        rw [if_neg same, List.map_cons, ih, List.map_cons]
        simp only [List.mem_cons, different, false_or]
        split <;> simp

/-- What stands after a candidate is placed is the candidate or an entry of another course. -/
theorem mem_placed {candidate entry : Recommendation} {entries : List Recommendation}
    (distinct : (entries.map (·.courseId)).Nodup) (member : entry ∈ placed candidate entries) :
    entry = candidate ∨ (entry ∈ entries ∧ entry.courseId ≠ candidate.courseId) := by
  induction entries with
  | nil => exact .inl (List.mem_singleton.mp member)
  | cons head rest ih =>
      rw [List.map_cons, List.nodup_cons] at distinct
      rw [placed] at member
      split at member
      case isTrue same =>
          rcases List.mem_cons.mp member with isCandidate | old
          · exact .inl isCandidate
          · refine .inr ⟨List.mem_cons_of_mem head old, fun equal => distinct.1 ?_⟩
            rw [same, ← equal]
            exact List.mem_map_of_mem old
      case isFalse different =>
          rcases List.mem_cons.mp member with rfl | later
          · exact .inr ⟨List.mem_cons_self, different⟩
          · exact (ih distinct.2 later).imp_right fun old =>
              ⟨List.mem_cons_of_mem head old.1, old.2⟩

theorem collapse_ids (candidates : List Recommendation) :
    (collapse candidates).map (·.courseId) = (candidates.map (·.courseId)).eraseDups := by
  induction candidates using List.reverseRecOn with
  | nil => rfl
  | append_singleton candidates last ih =>
      rw [collapse_concat, placed_ids, ih, List.map_append, List.map_singleton, eraseDups_concat]
      simp only [List.mem_eraseDups]

theorem collapse_last (candidates : List Recommendation) {entry : Recommendation}
    (member : entry ∈ collapse candidates) :
    lastCandidate? candidates entry.courseId = some entry := by
  induction candidates using List.reverseRecOn with
  | nil => cases member
  | append_singleton candidates last ih =>
      have distinct : ((collapse candidates).map (·.courseId)).Nodup := by
        rw [collapse_ids]
        exact eraseDups_nodup _
      rw [collapse_concat] at member
      rw [lastCandidate?_concat]
      obtain rfl | ⟨old, different⟩ := mem_placed distinct member
      · simp
      · rw [if_neg different.symm, ih old]

/-- Merged candidates are the same with slots and without. Their courses are those of the
candidates in the order of first occurrence, and each entry is the last candidate for its course.
No course is repeated, lost or invented. -/
theorem merge_eq_collapse (candidates : List Recommendation) :
    merge candidates = collapse candidates ∧
      (merge candidates).map (·.courseId) = (candidates.map (·.courseId)).eraseDups ∧
      (merge candidates).map some =
        (candidates.map (·.courseId)).eraseDups.map
          (fun id => candidates.reverse.find? fun candidate => candidate.courseId == id) ∧
      ((merge candidates).map (·.courseId)).Nodup ∧
      ∀ id, id ∈ (merge candidates).map (·.courseId) ↔ id ∈ candidates.map (·.courseId) := by
  have collapsed : collapse candidates = merge candidates :=
    eq_merge (collapse_ids candidates) fun _ member => collapse_last candidates member
  exact ⟨collapsed.symm, merge_ids candidates, merge_map_some candidates,
    merge_nodup candidates, fun _ => mem_merge_ids⟩

/-- A course stays where it was first proposed, as it was last proposed. -/
example : merge [⟨⟨"A"⟩, "A v1", "first"⟩, ⟨⟨"B"⟩, "B", "only"⟩, ⟨⟨"A"⟩, "A v2", "second"⟩] =
    [⟨⟨"A"⟩, "A v2", "second"⟩, ⟨⟨"B"⟩, "B", "only"⟩] := by decide

/-- Lists that agree on their courses and on the last candidates for them are merged alike. -/
theorem merge_congr {first second : List Recommendation}
    (ids : (first.map (·.courseId)).eraseDups = (second.map (·.courseId)).eraseDups)
    (lasts : ∀ id, lastCandidate? first id = lastCandidate? second id) :
    merge first = merge second := by
  refine eq_merge ?_ fun entry member => ?_
  · rw [merge_ids, ids]
  · rw [← lasts, merge_last first member]

/-- A merged list has the last candidate for each course. -/
theorem lastCandidate?_merge (candidates : List Recommendation) (id : CourseId) :
    lastCandidate? (merge candidates) id = lastCandidate? candidates id := by
  cases found : lastCandidate? (merge candidates) id with
  | none =>
      rw [lastCandidate?_eq_none, mem_merge_ids] at found
      exact (lastCandidate?_eq_none.mpr found).symm
  | some entry =>
      have same : entry.courseId = id := by simpa using List.find?_some found
      have member := List.mem_reverse.mp (List.mem_of_find?_eq_some found)
      rw [← same, merge_last candidates member]

/-- Candidates that come first can be merged on their own. -/
theorem merge_merge_append (first second : List Recommendation) :
    merge (merge first ++ second) = merge (first ++ second) := by
  refine merge_congr ?_ fun id => ?_
  · rw [List.map_append, List.map_append, eraseDups_append_filter, eraseDups_append_filter,
      merge_ids, eraseDups_of_nodup (eraseDups_nodup _)]
    simp only [List.mem_eraseDups]
  · rw [lastCandidate?_append, lastCandidate?_append, lastCandidate?_merge]

/-- Candidates that come later can be merged on their own. -/
theorem merge_append_merge (first second : List Recommendation) :
    merge (first ++ merge second) = merge (first ++ second) := by
  refine merge_congr ?_ fun id => ?_
  · rw [List.map_append, List.map_append, eraseDups_append_filter, eraseDups_append_filter,
      merge_ids, eraseDups_of_nodup (eraseDups_nodup _)]
  · rw [lastCandidate?_append, lastCandidate?_append, lastCandidate?_merge]

/-- Each block of candidates can be merged on its own. -/
theorem merge_flatMap_merge {α : Type} (sources : List α) (block : α → List Recommendation) :
    merge (sources.flatMap fun source => merge (block source)) =
      merge (sources.flatMap block) := by
  induction sources with
  | nil => rfl
  | cons source rest ih =>
      rw [List.flatMap_cons, List.flatMap_cons, merge_merge_append, ← merge_append_merge, ih,
        merge_append_merge]

/-- Merging a part of the candidates beforehand changes nothing, whichever part it is. Merging
again changes nothing either, and rules can be merged one by one. -/
theorem merge_staged (first second : List Recommendation) (set : RuleSet) (context : Context) :
    merge (merge first ++ second) = merge (first ++ second) ∧
      merge (first ++ merge second) = merge (first ++ second) ∧
      merge (merge first) = merge first ∧
      merge (set.rules.flatMap fun rule => merge (rule.candidates context)) =
        (set.evaluate context).value := by
  have again : merge (merge first) = merge first := by
    simpa using merge_merge_append first []
  refine ⟨merge_merge_append first second, merge_append_merge first second, again, ?_⟩
  rw [RuleSet.evaluate_eq]
  exact merge_flatMap_merge set.rules fun rule => rule.candidates context

end CourseAdvisor
