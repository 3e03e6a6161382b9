/-
This file proves that slots always tell where the entries of their courses stand, so that no
entry is ever replaced outside the merged list.
-/

import CourseAdvisor.Proofs.Advice.Merging

namespace CourseAdvisor

namespace Merging

/-- The courses of the entries have one slot each, which tells the place of the entry. -/
structure Indexed (merging : Merging) : Prop where
  keys : (merging.slots.map Prod.fst).Perm (merging.merged.map (·.courseId))
  distinct : (merging.slots.map Prod.fst).Nodup
  places : ∀ id place, merging.slots.lookup id = some place ↔
    (merging.merged[place]?).map (·.courseId) = some id

/-- A place with a slot is inside the merged list. -/
theorem place_within {merging : Merging} (faithful : merging.Faithful) {id : CourseId}
    {place : Nat} (known : merging.slots.lookup id = some place) :
    place < merging.merged.length := by
  obtain ⟨entry, found, _⟩ := Option.map_eq_some_iff.mp ((faithful id place).mp known)
  exact (List.getElem?_eq_some_iff.mp found).1

/-- An entry that takes the place of its slot keeps the course of the place, and the courses of
all other places. -/
theorem courses_replaced {merging : Merging} (faithful : merging.Faithful)
    {candidate : Recommendation} {place : Nat}
    (known : merging.slots.lookup candidate.courseId = some place) :
    (merging.merged.set place candidate).map (·.courseId) =
      merging.merged.map (·.courseId) := by
  have kept := add_ids faithful candidate
  have member := (lookup_isSome_iff faithful candidate.courseId).mp (by simp [known])
  rw [if_pos member, add, known] at kept
  exact kept

/-- The slots are made in the order of the entries, the last one first. -/
theorem slots_add {merging : Merging} (faithful : merging.Faithful)
    (ordered : merging.slots.map Prod.fst = (merging.merged.map (·.courseId)).reverse)
    (candidate : Recommendation) :
    (merging.add candidate).slots.map Prod.fst =
      ((merging.add candidate).merged.map (·.courseId)).reverse := by
  unfold add
  split
  case h_1 place known =>
      show merging.slots.map Prod.fst = _
      rw [courses_replaced faithful known, ordered]
  case h_2 fresh =>
      rw [List.map_cons, ordered, List.map_append, List.reverse_append]
      rfl

/-- The slots of a whole run stand in the order of its entries, the last one first. -/
theorem slots_run (candidates : List Recommendation) :
    (candidates.foldl add empty).slots.map Prod.fst =
      ((candidates.foldl add empty).merged.map (·.courseId)).reverse := by
  induction candidates using List.reverseRecOn with
  | nil => rfl
  | append_singleton candidates candidate ih =>
      rw [List.foldl_append]
      exact slots_add (faithful_run candidates) ih candidate

theorem indexed_run (candidates : List Recommendation) :
    (candidates.foldl add empty).Indexed := by
  have keys : ((candidates.foldl add empty).slots.map Prod.fst).Perm
      ((candidates.foldl add empty).merged.map (·.courseId)) := by
    rw [slots_run]
    exact List.reverse_perm _
  exact ⟨keys, keys.nodup_iff.mpr (merge_nodup candidates), faithful_run candidates⟩

/-- An entry can be replaced only where one stands. -/
def replaced? (entries : List Recommendation) (place : Nat) (candidate : Recommendation) :
    Option (List Recommendation) :=
  if place < entries.length then some (entries.set place candidate) else none

/-- This step has no result where it would replace an entry outside the merged list. -/
def add? (merging : Merging) (candidate : Recommendation) : Option Merging :=
  match merging.slots.lookup candidate.courseId with
  | some place => do
      let merged ← replaced? merging.merged place candidate
      return { merging with merged }
  | none =>
      some {
        slots := (candidate.courseId, merging.merged.length) :: merging.slots
        merged := merging.merged ++ [candidate] }

/-- With true slots, every step has its result. -/
theorem add?_eq {merging : Merging} (faithful : merging.Faithful) (candidate : Recommendation) :
    merging.add? candidate = some (merging.add candidate) := by
  unfold add? add
  cases known : merging.slots.lookup candidate.courseId with
  | none => rfl
  | some place =>
      show (replaced? merging.merged place candidate >>= fun merged =>
        some { merging with merged }) = _
      rw [replaced?, if_pos (place_within faithful known)]
      rfl

/-- No step of a run is without a result. -/
theorem add?_run (candidates : List Recommendation) :
    candidates.foldlM add? empty = some (candidates.foldl add empty) := by
  induction candidates using List.reverseRecOn with
  | nil => rfl
  | append_singleton candidates candidate ih =>
      rw [List.foldlM_append, ih, List.foldl_append]
      show (add? (candidates.foldl add empty) candidate >>= pure) = _
      rw [add?_eq (faithful_run candidates)]
      rfl

/-- This is the merging before the candidate at a position. -/
def before (candidates : List Recommendation) (position : Nat) : Merging :=
  (candidates.take position).foldl add empty

theorem before_succ {candidates : List Recommendation} {position : Nat}
    {candidate : Recommendation} (next : candidates[position]? = some candidate) :
    before candidates (position + 1) = (before candidates position).add candidate := by
  unfold before
  rw [List.take_add_one, next, List.foldl_append]
  rfl

/-- A candidate of a known course takes the place of the entry of its course. -/
structure Replaces (merging next : Merging) (candidate : Recommendation) (place : Nat) : Prop where
  within : place < merging.merged.length
  slots : next.slots = merging.slots
  merged : next.merged = merging.merged.set place candidate
  courses : ∀ other : Nat, (next.merged[other]?).map (·.courseId) =
    (merging.merged[other]?).map (·.courseId)

theorem add_replaces {merging : Merging} (faithful : merging.Faithful)
    {candidate : Recommendation} {place : Nat}
    (known : merging.slots.lookup candidate.courseId = some place) :
    merging.Replaces (merging.add candidate) candidate place := by
  have replaced : merging.add candidate =
      { merging with merged := merging.merged.set place candidate } := by
    rw [add, known]
  rw [replaced]
  constructor
  case within => exact place_within faithful known
  case slots => rfl
  case merged => rfl
  case courses =>
      intro other
      rw [← List.getElem?_map, ← List.getElem?_map, courses_replaced faithful known]

/-- At every step of every run the slots tell where the entries stand. An entry is replaced within
the list, by one of the same course, and so every replacement of a run has its result. -/
theorem before_indexed (candidates : List Recommendation) :
    (∀ position, (before candidates position).Indexed) ∧
      (∀ position candidate place, candidates[position]? = some candidate →
        (before candidates position).slots.lookup candidate.courseId = some place →
          (before candidates position).Replaces (before candidates (position + 1)) candidate
            place) ∧
      candidates.foldlM add? empty = some (candidates.foldl add empty) := by
  constructor
  · intro position
    exact indexed_run (candidates.take position)
  constructor
  · intro position candidate place next known
    rw [before_succ next]
    exact add_replaces (faithful_run (candidates.take position)) known
  · exact add?_run candidates

/-- The third candidate takes the place of the first entry, which is within a list of two. -/
theorem repeatedCourse_replaces :
    before [⟨⟨"A"⟩, "A v1", "first"⟩, ⟨⟨"B"⟩, "B", "only"⟩, ⟨⟨"A"⟩, "A v2", "second"⟩] 2 =
        ⟨[(⟨"B"⟩, 1), (⟨"A"⟩, 0)], [⟨⟨"A"⟩, "A v1", "first"⟩, ⟨⟨"B"⟩, "B", "only"⟩]⟩ ∧
      Replaces
        ⟨[(⟨"B"⟩, 1), (⟨"A"⟩, 0)], [⟨⟨"A"⟩, "A v1", "first"⟩, ⟨⟨"B"⟩, "B", "only"⟩]⟩
        ⟨[(⟨"B"⟩, 1), (⟨"A"⟩, 0)], [⟨⟨"A"⟩, "A v2", "second"⟩, ⟨⟨"B"⟩, "B", "only"⟩]⟩
        ⟨⟨"A"⟩, "A v2", "second"⟩ 0 := by
  obtain ⟨_, replaces, _⟩ := before_indexed
    [⟨⟨"A"⟩, "A v1", "first"⟩, ⟨⟨"B"⟩, "B", "only"⟩, ⟨⟨"A"⟩, "A v2", "second"⟩]
  exact ⟨rfl, replaces 2 ⟨⟨"A"⟩, "A v2", "second"⟩ 0 rfl rfl⟩

end Merging

end CourseAdvisor
