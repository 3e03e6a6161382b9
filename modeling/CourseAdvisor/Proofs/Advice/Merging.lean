/-
This file proves where merged candidates stand and what they carry.
-/

import CourseAdvisor.Proofs.FirstOccurrences
import CourseAdvisor.Recommendation.Merge

namespace CourseAdvisor

open FirstOccurrences

namespace Merging

/-- Each slot tells the place of the entry of its course, and every entry has a slot. -/
def Faithful (merging : Merging) : Prop :=
  ∀ id place, merging.slots.lookup id = some place ↔
    (merging.merged[place]?).map (·.courseId) = some id

theorem faithful_empty : empty.Faithful := by
  intro id place
  simp [empty]

/-- A candidate of a known course keeps every slot true. -/
theorem faithful_replace {merging : Merging} (faithful : merging.Faithful)
    {candidate : Recommendation} {place : Nat}
    (known : merging.slots.lookup candidate.courseId = some place) :
    Faithful { merging with merged := merging.merged.set place candidate } := by
  intro id other
  rw [faithful id other, List.getElem?_set]
  by_cases same : place = other
  · subst same
    have standing := (faithful _ _).mp known
    obtain ⟨entry, found, _⟩ := Option.map_eq_some_iff.mp standing
    obtain ⟨inside, _⟩ := List.getElem?_eq_some_iff.mp found
    rw [if_pos rfl, if_pos inside, standing, Option.map_some]
  · rw [if_neg same]

/-- A candidate of a new course gets a slot for the end of the list. -/
theorem faithful_append {merging : Merging} (faithful : merging.Faithful)
    {candidate : Recommendation} (fresh : merging.slots.lookup candidate.courseId = none) :
    Faithful
      { slots := (candidate.courseId, merging.merged.length) :: merging.slots
        merged := merging.merged ++ [candidate] } := by
  intro id place
  rw [List.lookup_cons, List.getElem?_append]
  have unslotted : merging.slots.lookup candidate.courseId ≠ some place := by simp [fresh]
  rw [Ne, faithful] at unslotted
  by_cases same : id = candidate.courseId
  · subst same
    by_cases inside : place < merging.merged.length
    · simp only [beq_self_eq_true, Option.some.injEq, inside, if_true, unslotted, iff_false]
      omega
    · simp only [beq_self_eq_true, Option.some.injEq, inside, if_false]
      constructor
      · rintro rfl
        simp
      · intro standing
        obtain ⟨entry, found, _⟩ := Option.map_eq_some_iff.mp standing
        obtain ⟨bound, _⟩ := List.getElem?_eq_some_iff.mp found
        simp only [List.length_singleton] at bound
        omega
  · have different : (id == candidate.courseId) = false := by simpa using same
    rw [different, faithful id place]
    by_cases inside : place < merging.merged.length
    · simp [inside]
    · have outside : merging.merged[place]? = none := by simpa using inside
      simp only [inside, if_false, outside, Option.map_none, reduceCtorEq, false_iff]
      intro standing
      obtain ⟨entry, found, isEntry⟩ := Option.map_eq_some_iff.mp standing
      have member := List.mem_of_getElem? found
      rw [List.mem_singleton] at member
      exact same (by rw [← isEntry, member])

/-- Every candidate keeps the slots true. -/
theorem faithful_add {merging : Merging} (faithful : merging.Faithful)
    (candidate : Recommendation) : (merging.add candidate).Faithful := by
  unfold add
  split
  case h_1 place known => exact faithful_replace faithful known
  case h_2 fresh => exact faithful_append faithful fresh

/-- The slots stay true over a whole run. -/
theorem faithful_run (candidates : List Recommendation) :
    (candidates.foldl add empty).Faithful := by
  induction candidates using List.reverseRecOn with
  | nil => exact faithful_empty
  | append_singleton candidates candidate ih =>
      rw [List.foldl_append]
      exact faithful_add ih candidate

/-- A course has a slot exactly when it has an entry. -/
theorem lookup_isSome_iff {merging : Merging} (faithful : merging.Faithful) (id : CourseId) :
    (merging.slots.lookup id).isSome ↔ id ∈ merging.merged.map (·.courseId) := by
  rw [Option.isSome_iff_exists, List.mem_iff_getElem?]
  simp only [faithful id, List.getElem?_map]

/-- A candidate adds its course at the end, or nothing when the course has an entry. -/
theorem add_ids {merging : Merging} (faithful : merging.Faithful) (candidate : Recommendation) :
    (merging.add candidate).merged.map (·.courseId) =
      if candidate.courseId ∈ merging.merged.map (·.courseId)
        then merging.merged.map (·.courseId)
        else merging.merged.map (·.courseId) ++ [candidate.courseId] := by
  unfold add
  split
  case h_1 place known =>
      have member := (lookup_isSome_iff faithful candidate.courseId).mp (by simp [known])
      have standing := (faithful _ _).mp known
      rw [if_pos member, List.map_set]
      apply List.ext_getElem?
      intro other
      rw [List.getElem?_set]
      split
      case isTrue same =>
          subst same
          rw [← List.getElem?_map] at standing
          obtain ⟨inside, _⟩ := List.getElem?_eq_some_iff.mp standing
          simp only [inside, if_true, standing]
      case isFalse => rfl
  case h_2 fresh =>
      have absent : candidate.courseId ∉ merging.merged.map (·.courseId) := by
        rw [← lookup_isSome_iff faithful]
        simp [fresh]
      rw [if_neg absent, List.map_append, List.map_singleton]

/-- An entry is the candidate itself or an entry of another course. -/
theorem add_entry {merging : Merging} (faithful : merging.Faithful)
    {candidate entry : Recommendation} (member : entry ∈ (merging.add candidate).merged) :
    entry = candidate ∨ (entry ∈ merging.merged ∧ entry.courseId ≠ candidate.courseId) := by
  unfold add at member
  split at member
  case h_1 place known =>
      obtain ⟨other, found⟩ := List.mem_iff_getElem?.mp member
      rw [List.getElem?_set] at found
      split at found
      case isTrue =>
          split at found
          · exact .inl (Option.some.inj found).symm
          · cases found
      case isFalse different =>
          refine .inr ⟨List.mem_of_getElem? found, fun same => different ?_⟩
          have slotted := (faithful candidate.courseId other).mpr (by simp [found, same])
          exact Option.some.inj (known.symm.trans slotted)
  case h_2 fresh =>
      rw [List.mem_append, List.mem_singleton] at member
      refine member.symm.imp_right fun old => ⟨old, fun same => ?_⟩
      have slotted := (lookup_isSome_iff faithful candidate.courseId).mpr
        (List.mem_map.mpr ⟨entry, old, same⟩)
      simp [fresh] at slotted

end Merging

/-- This is the last candidate for a course. -/
def lastCandidate? (candidates : List Recommendation) (id : CourseId) : Option Recommendation :=
  candidates.reverse.find? fun candidate => candidate.courseId == id

theorem lastCandidate?_concat (candidates : List Recommendation) (last : Recommendation)
    (id : CourseId) :
    lastCandidate? (candidates ++ [last]) id =
      if last.courseId = id then some last else lastCandidate? candidates id := by
  unfold lastCandidate?
  rw [List.reverse_concat, List.find?_cons]
  by_cases same : last.courseId = id
  · simp [same]
  · have different : (last.courseId == id) = false := by simpa using same
    simp [same, different]

/-- Candidates that come later go before those that come earlier. -/
theorem lastCandidate?_append (first second : List Recommendation) (id : CourseId) :
    lastCandidate? (first ++ second) id =
      (lastCandidate? second id).or (lastCandidate? first id) := by
  unfold lastCandidate?
  rw [List.reverse_append, List.find?_append]

/-- A course without candidates has no last one. -/
theorem lastCandidate?_eq_none {candidates : List Recommendation} {id : CourseId} :
    lastCandidate? candidates id = none ↔ id ∉ candidates.map (·.courseId) := by
  simp [lastCandidate?, List.mem_map]

/-- After the last candidate for a course there is no other one. -/
theorem lastCandidate?_split {candidates : List Recommendation} {id : CourseId}
    {last : Recommendation} (found : lastCandidate? candidates id = some last) :
    ∃ earlier later, candidates = earlier ++ last :: later ∧
      ∀ candidate ∈ later, candidate.courseId ≠ id := by
  obtain ⟨_, later, earlier, reversed, others⟩ := List.find?_eq_some_iff_append.mp found
  refine ⟨earlier.reverse, later.reverse, ?_, ?_⟩
  · have same := congrArg List.reverse reversed
    simpa using same
  · intro candidate member
    simpa using others candidate (List.mem_reverse.mp member)

/-- When the candidates for a course come from sources that agree, the first source tells the
last candidate. -/
theorem lastCandidate?_sources {α : Type} {candidates : List Recommendation} {id : CourseId}
    {sources : List α} {test : α → Bool} {entry : α → Recommendation}
    (covered : ∀ candidate, candidate ∈ candidates ∧ candidate.courseId = id ↔
      ∃ source ∈ sources, test source = true ∧ candidate = entry source)
    (agree : ∀ source ∈ sources, test source = true → ∀ other ∈ sources, test other = true →
      entry source = entry other) :
    lastCandidate? candidates id = (sources.find? test).map entry := by
  unfold lastCandidate?
  cases found : sources.find? test with
  | none =>
      rw [Option.map_none, List.find?_eq_none]
      intro candidate member same
      obtain ⟨source, isSource, passed, _⟩ :=
        (covered candidate).mp ⟨List.mem_reverse.mp member, beq_iff_eq.mp same⟩
      exact List.find?_eq_none.mp found source isSource passed
  | some source =>
      have isSource := List.mem_of_find?_eq_some found
      have passed := List.find?_some found
      obtain ⟨member, same⟩ := (covered (entry source)).mpr ⟨source, isSource, passed, rfl⟩
      refine find?_only (List.mem_reverse.mpr member) (by simpa using same) ?_
      intro candidate candidateMember candidateSame
      obtain ⟨other, isOther, otherPassed, rfl⟩ := (covered candidate).mp
        ⟨List.mem_reverse.mp candidateMember, beq_iff_eq.mp candidateSame⟩
      exact agree other isOther otherPassed source isSource passed

/-- Each course stands where it was first proposed. -/
theorem merge_ids (candidates : List Recommendation) :
    (merge candidates).map (·.courseId) = (candidates.map (·.courseId)).eraseDups := by
  unfold merge
  induction candidates using List.reverseRecOn with
  | nil => rfl
  | append_singleton candidates candidate ih =>
      rw [List.foldl_append, List.foldl_cons, List.foldl_nil,
        Merging.add_ids (Merging.faithful_run candidates), List.map_append, List.map_singleton,
        eraseDups_concat, ih]
      simp only [List.mem_eraseDups]

/-- Each entry is what was last proposed for its course. -/
theorem merge_last (candidates : List Recommendation) {entry : Recommendation}
    (member : entry ∈ merge candidates) :
    lastCandidate? candidates entry.courseId = some entry := by
  unfold merge at member
  induction candidates using List.reverseRecOn with
  | nil => simp [Merging.empty] at member
  | append_singleton candidates candidate ih =>
      rw [List.foldl_append] at member
      rw [lastCandidate?_concat]
      obtain rfl | ⟨old, different⟩ :=
        Merging.add_entry (Merging.faithful_run candidates) member
      · simp
      · rw [if_neg different.symm, ih old]

/-- An entry stands where its course was first proposed and is its last candidate. -/
theorem merge_getElem? {candidates : List Recommendation} {place : Nat} {entry : Recommendation} :
    (merge candidates)[place]? = some entry ↔
      (candidates.map (·.courseId)).eraseDups[place]? = some entry.courseId ∧
        lastCandidate? candidates entry.courseId = some entry := by
  rw [← merge_ids, List.getElem?_map, Option.map_eq_some_iff]
  constructor
  · intro standing
    exact ⟨⟨entry, standing, rfl⟩, merge_last candidates (List.mem_of_getElem? standing)⟩
  · rintro ⟨⟨other, standing, same⟩, last⟩
    have lastOther := merge_last candidates (List.mem_of_getElem? standing)
    rw [same, last] at lastOther
    rw [Option.some.inj lastOther, standing]

/-- No course stands twice in a merged list. -/
theorem merge_nodup (candidates : List Recommendation) :
    ((merge candidates).map (·.courseId)).Nodup := by
  rw [merge_ids]
  exact eraseDups_nodup _

/-- The courses of a merged list are those of the candidates. -/
theorem mem_merge_ids {candidates : List Recommendation} {id : CourseId} :
    id ∈ (merge candidates).map (·.courseId) ↔ id ∈ candidates.map (·.courseId) := by
  rw [merge_ids, List.mem_eraseDups]

/-- Merging invents no entry. -/
theorem mem_of_mem_merge {candidates : List Recommendation} {entry : Recommendation}
    (member : entry ∈ merge candidates) : entry ∈ candidates :=
  List.mem_reverse.mp (List.mem_of_find?_eq_some (merge_last candidates member))

/-- The entries of a merged list are the last candidates of their courses. -/
theorem mem_merge {candidates : List Recommendation} {entry : Recommendation} :
    entry ∈ merge candidates ↔ lastCandidate? candidates entry.courseId = some entry := by
  refine ⟨merge_last candidates, fun last => ?_⟩
  have proposed : entry ∈ candidates := List.mem_reverse.mp (List.mem_of_find?_eq_some last)
  obtain ⟨standing, member, sameId⟩ :=
    List.mem_map.mp (mem_merge_ids.mpr (List.mem_map_of_mem proposed))
  have lastStanding := merge_last candidates member
  rw [sameId, last] at lastStanding
  rwa [Option.some.inj lastStanding]

/-- Candidates that agree on the last one for each course merge to the same entries in some
order. -/
theorem merge_perm {first second : List Recommendation}
    (same : ∀ id, lastCandidate? first id = lastCandidate? second id) :
    (merge first).Perm (merge second) := by
  have distinct (candidates : List Recommendation) : (merge candidates).Nodup :=
    List.Pairwise.of_map (·.courseId) (fun _ _ => mt (congrArg _)) (merge_nodup candidates)
  refine (List.perm_ext_iff_of_nodup (distinct first) (distinct second)).mpr fun entry => ?_
  rw [mem_merge, mem_merge, same]

/-- Merging needs no slots: it looks up the last candidate of each course in order. -/
theorem merge_map_some (candidates : List Recommendation) :
    (merge candidates).map some =
      (candidates.map (·.courseId)).eraseDups.map (lastCandidate? candidates) := by
  rw [← merge_ids, List.map_map]
  apply List.map_congr_left
  intro entry member
  exact (merge_last candidates member).symm

/-- A list with the courses of the candidates in order and their last candidates is the merged
list. -/
theorem eq_merge {candidates entries : List Recommendation}
    (ids : entries.map (·.courseId) = (candidates.map (·.courseId)).eraseDups)
    (lasts : ∀ entry ∈ entries, lastCandidate? candidates entry.courseId = some entry) :
    entries = merge candidates := by
  have looked : entries.map some = (merge candidates).map some := by
    rw [merge_map_some, ← ids, List.map_map]
    apply List.map_congr_left
    intro entry member
    exact (lasts entry member).symm
  exact (List.map_inj_right fun _ _ => Option.some.inj).mp looked

end CourseAdvisor
