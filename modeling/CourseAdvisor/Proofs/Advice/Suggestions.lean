/-
This file proves that merged candidates of the three rules are the suggestions of a standing.
-/

import Mathlib.Data.List.Nodup
import CourseAdvisor.Proofs.Advice.Merging
import CourseAdvisor.Proofs.Advice.Reference

namespace CourseAdvisor

open FirstOccurrences

namespace Standing

/-- In a sound standing an id stands for one published course, and only published courses are
completed. -/
structure Sound (standing : Standing) : Prop where
  distinct : (standing.published.map (·.id)).Nodup
  known : ∀ done ∈ standing.completions, done ∈ standing.published

variable {standing : Standing}

theorem Sound.same (sound : standing.Sound) {first second : Course}
    (firstMember : first ∈ standing.published) (secondMember : second ∈ standing.published)
    (sameId : first.id = second.id) : first = second :=
  List.inj_on_of_nodup_map sound.distinct firstMember secondMember sameId

/-- Blocks of published courses that share no course keep the order of their first keys. -/
theorem Sound.blocks {κ : Type} [DecidableEq κ] (sound : standing.Sound) (keys : List κ)
    (block : κ → List Course) (part : ∀ key, (block key).Sublist standing.published)
    (apart : ∀ key other, ∀ course ∈ block key, course ∈ block other → key = other) :
    (keys.flatMap fun key => (block key).map (·.id)).eraseDups =
      (keys.eraseDups.flatMap block).map (·.id) := by
  rw [List.map_flatMap]
  apply eraseDups_flatMap
  · intro key _
    exact sound.distinct.sublist ((part key).map _)
  · intro key _ other _ different id member shared
    obtain ⟨course, inBlock, rfl⟩ := List.mem_map.mp member
    obtain ⟨twin, inOther, sameId⟩ := List.mem_map.mp shared
    have same : twin = course :=
      sound.same ((part other).subset inOther) ((part key).subset inBlock) sameId
    exact different (apart key other course inBlock (same ▸ inOther))

/-- Published courses are left out by id exactly when they are left out themselves. -/
theorem Sound.filter_ids (sound : standing.Sound) {courses left : List Course}
    (part : ∀ course ∈ courses, course ∈ standing.published)
    (leftPart : ∀ course ∈ left, course ∈ standing.published) :
    (courses.map (·.id)).filter (fun id => decide (id ∉ left.map (·.id))) =
      (courses.filter fun course => decide (course ∉ left)).map (·.id) := by
  rw [List.filter_map]
  congr 1
  apply List.filter_congr
  intro course member
  rw [Function.comp_apply, decide_eq_decide, not_iff_not]
  constructor
  · intro shared
    obtain ⟨twin, inLeft, sameId⟩ := List.mem_map.mp shared
    exact sound.same (leftPart twin inLeft) (part course member) sameId ▸ inLeft
  · exact fun inLeft => List.mem_map_of_mem inLeft

/-- These are the candidates of the sequence rule. -/
def sequence (standing : Standing) : List Recommendation :=
  standing.completions.flatMap fun done =>
    (standing.published.filter fun next => next.prerequisite == some done.id).map
      fun next => .forCourse next (Rule.sequenceReason done)

/-- These are the candidates of the remedial rule. -/
def remediation (standing : Standing) : List Recommendation :=
  standing.weakSkills.filterMap fun skill =>
    (standing.remedy? skill).map fun course => .forCourse course (Rule.remedialReason skill)

/-- These are the intermediate courses, when the learner progresses. -/
def intermediates (standing : Standing) : List Course :=
  if standing.progresses then
    standing.published.filter fun course => course.level == .intermediate
  else []

/-- These are the candidates of the progression rule. -/
def progression (standing : Standing) : List Recommendation :=
  standing.intermediates.map fun course => .forCourse course Rule.progressionReason

/-- A remedy is a published remedial course in the skill. -/
theorem remedy?_found {skill : String} {course : Course}
    (found : standing.remedy? skill = some course) :
    course ∈ standing.published ∧ course.skill = some skill := by
  have passed := List.find?_some found
  rw [Bool.and_eq_true, beq_iff_eq] at passed
  exact ⟨List.mem_of_find?_eq_some found, passed.2⟩

theorem mem_successors {course : Course} :
    course ∈ standing.successors ↔
      course ∈ standing.published ∧
        ∃ done ∈ standing.completions, course.prerequisite = some done.id := by
  simp only [successors, List.mem_flatMap, List.mem_eraseDups, List.mem_map, List.mem_filter,
    beq_iff_eq]
  constructor
  · rintro ⟨_, ⟨done, member, rfl⟩, published, opened⟩
    exact ⟨published, done, member, opened⟩
  · rintro ⟨published, done, member, opened⟩
    exact ⟨_, ⟨done, member, rfl⟩, published, opened⟩

theorem mem_intermediates {course : Course} :
    course ∈ standing.intermediates ↔
      course ∈ standing.published ∧ standing.progresses = true ∧ course.level = .intermediate := by
  unfold intermediates
  split
  case isTrue progresses => simp [progresses]
  case isFalse stays => simp [stays]

/-- These are the remedies of the weak skills, the successors among them too. -/
def weakRemedies (standing : Standing) : List Course :=
  standing.weakSkills.eraseDups.filterMap standing.remedy?

theorem weakRemedies_published {course : Course} (member : course ∈ standing.weakRemedies) :
    course ∈ standing.published := by
  obtain ⟨_, _, found⟩ := List.mem_filterMap.mp member
  exact (remedy?_found found).1

/-- The openings are the intermediate courses that no other rule proposes. -/
theorem openings_eq :
    standing.openings = standing.intermediates.filter fun course =>
      decide (course ∉ standing.successors ++ standing.weakRemedies) := by
  unfold openings intermediates
  split
  case isTrue =>
      rw [List.filter_filter]
      apply List.filter_congr
      intro course _
      by_cases old : course ∈ standing.successors <;>
        simp [remedies, weakRemedies, old, Bool.and_comm]
  case isFalse => rfl

/-- The sequence rule proposes the successors, in their order. -/
theorem Sound.sequence_ids (sound : standing.Sound) :
    (standing.sequence.map (·.courseId)).eraseDups = standing.successors.map (·.id) := by
  have blocks := sound.blocks (standing.completions.map (·.id))
    (fun id => standing.published.filter fun next => next.prerequisite == some id)
    (fun _ => List.filter_sublist)
    (by
      intro id other course opened otherOpened
      simp only [List.mem_filter, beq_iff_eq] at opened otherOpened
      exact Option.some.inj (opened.2.symm.trans otherOpened.2))
  rw [List.flatMap_map] at blocks
  rw [successors, ← blocks, sequence, List.map_flatMap]
  simp only [List.map_map, Function.comp_def, Recommendation.forCourse]

/-- The remedial rule proposes the remedy of each weak skill, in the order of the skills. -/
theorem Sound.remediation_ids (sound : standing.Sound) :
    (standing.remediation.map (·.courseId)).eraseDups =
      standing.weakRemedies.map (·.id) := by
  have blocks := sound.blocks standing.weakSkills (fun skill => (standing.remedy? skill).toList)
    (by
      intro skill
      cases found : standing.remedy? skill with
      | none => exact List.nil_sublist _
      | some course => exact List.singleton_sublist.mpr (remedy?_found found).1)
    (by
      intro skill other course found otherFound
      rw [Option.mem_toList] at found otherFound
      exact Option.some.inj ((remedy?_found found).2.symm.trans (remedy?_found otherFound).2))
  rw [weakRemedies, List.filterMap_eq_flatMap_toList, ← blocks, remediation, List.map_filterMap,
    List.filterMap_eq_flatMap_toList]
  simp only [Option.map_map, Function.comp_def, Recommendation.forCourse, Option.toList_map]

/-- The progression rule proposes intermediate courses once. -/
theorem Sound.progression_ids (sound : standing.Sound) :
    (standing.progression.map (·.courseId)).eraseDups = standing.intermediates.map (·.id) := by
  have part : standing.intermediates.Sublist standing.published := by
    unfold intermediates
    split
    · exact List.filter_sublist
    · exact List.nil_sublist _
  have ids : standing.progression.map (·.courseId) = standing.intermediates.map (·.id) := by
    simp only [progression, List.map_map, Function.comp_def, Recommendation.forCourse]
  rw [ids, eraseDups_of_nodup (sound.distinct.sublist (part.map _))]

/-- These are the candidates of all three rules. -/
def candidates (standing : Standing) : List Recommendation :=
  standing.sequence ++ standing.remediation ++ standing.progression

/-- All three rules together propose the suggestions, in their order. -/
theorem Sound.candidates_ids (sound : standing.Sound) :
    (standing.candidates.map (·.courseId)).eraseDups = standing.suggestions.map (·.id) := by
  have successorsPart (course : Course) (member : course ∈ standing.successors) :
      course ∈ standing.published := (mem_successors.mp member).1
  have oldPart (course : Course) (member : course ∈ standing.successors ++ standing.weakRemedies) :
      course ∈ standing.published :=
    (List.mem_append.mp member).elim (successorsPart course) weakRemedies_published
  have sequenceIds (id : CourseId) : id ∈ standing.sequence.map (·.courseId) ↔
      id ∈ standing.successors.map (·.id) := by rw [← List.mem_eraseDups, sound.sequence_ids]
  have remediationIds (id : CourseId) : id ∈ standing.remediation.map (·.courseId) ↔
      id ∈ standing.weakRemedies.map (·.id) := by
    rw [← List.mem_eraseDups, sound.remediation_ids]
  have remedies : standing.remedies.map (·.id) = (standing.weakRemedies.map (·.id)).filter
      fun id => decide (id ∉ standing.successors.map (·.id)) :=
    (sound.filter_ids (fun _ => weakRemedies_published) successorsPart).symm
  have openings : standing.openings.map (·.id) = (standing.intermediates.map (·.id)).filter
      fun id => decide (id ∉ (standing.successors ++ standing.weakRemedies).map (·.id)) := by
    rw [openings_eq, sound.filter_ids (fun _ member => (mem_intermediates.mp member).1) oldPart]
  rw [candidates, List.map_append, List.map_append, eraseDups_append_filter,
    eraseDups_append_filter, sound.sequence_ids, sound.remediation_ids, sound.progression_ids,
    suggestions, List.map_append, List.map_append, remedies, openings]
  simp only [List.mem_append, List.map_append, sequenceIds, remediationIds]

theorem Sound.progression_last (sound : standing.Sound) {course : Course}
    (published : course ∈ standing.published) :
    lastCandidate? standing.progression course.id =
      (standing.intermediates.find? (· == course)).map fun _ =>
        .forCourse course Rule.progressionReason := by
  apply lastCandidate?_sources
  · intro candidate
    constructor
    · rintro ⟨member, sameId⟩
      obtain ⟨other, isOther, rfl⟩ := List.mem_map.mp member
      have same := sound.same (mem_intermediates.mp isOther).1 published sameId
      exact ⟨other, isOther, beq_iff_eq.mpr same, by rw [same]⟩
    · rintro ⟨other, isOther, same, rfl⟩
      rw [beq_iff_eq] at same
      exact ⟨List.mem_map.mpr ⟨course, same ▸ isOther, rfl⟩, rfl⟩
  · intros
    rfl

theorem Sound.remediation_last (sound : standing.Sound) {course : Course}
    (published : course ∈ standing.published) :
    lastCandidate? standing.remediation course.id =
      (standing.weakSkills.find? fun skill => standing.remedy? skill == some course).map
        fun skill => .forCourse course (Rule.remedialReason skill) := by
  apply lastCandidate?_sources
  · intro candidate
    constructor
    · rintro ⟨member, sameId⟩
      obtain ⟨skill, weak, proposed⟩ := List.mem_filterMap.mp member
      obtain ⟨other, found, rfl⟩ := Option.map_eq_some_iff.mp proposed
      have same := sound.same (remedy?_found found).1 published sameId
      exact ⟨skill, weak, beq_iff_eq.mpr (same ▸ found), by rw [same]⟩
    · rintro ⟨skill, weak, found, rfl⟩
      rw [beq_iff_eq] at found
      exact ⟨List.mem_filterMap.mpr ⟨skill, weak, by rw [found]; rfl⟩, rfl⟩
  · intro skill _ found other _ otherFound
    rw [beq_iff_eq] at found otherFound
    have same := (remedy?_found found).2.symm.trans (remedy?_found otherFound).2
    rw [Option.some.inj same]

theorem Sound.sequence_last (sound : standing.Sound) {course : Course}
    (published : course ∈ standing.published) :
    lastCandidate? standing.sequence course.id =
      (standing.completions.find? fun done => course.prerequisite == some done.id).map
        fun done => .forCourse course (Rule.sequenceReason done) := by
  apply lastCandidate?_sources
  · intro candidate
    constructor
    · rintro ⟨member, sameId⟩
      obtain ⟨done, completed, opened⟩ := List.mem_flatMap.mp member
      obtain ⟨next, isNext, rfl⟩ := List.mem_map.mp opened
      rw [List.mem_filter] at isNext
      have same := sound.same isNext.1 published sameId
      exact ⟨done, completed, same ▸ isNext.2, by rw [same]⟩
    · rintro ⟨done, completed, opened, rfl⟩
      refine ⟨List.mem_flatMap.mpr ⟨done, completed, List.mem_map.mpr ⟨course, ?_, rfl⟩⟩, rfl⟩
      exact List.mem_filter.mpr ⟨published, opened⟩
  · intro done completed opened other otherCompleted otherOpened
    rw [beq_iff_eq] at opened otherOpened
    have sameId := Option.some.inj (opened.symm.trans otherOpened)
    rw [sound.same (sound.known done completed) (sound.known other otherCompleted) sameId]

/-- Progression has the last word on a published course, then remediation, then sequence. -/
theorem Sound.candidates_last (sound : standing.Sound) {course : Course}
    (published : course ∈ standing.published) :
    lastCandidate? standing.candidates course.id =
      ((standing.intermediates.find? (· == course)).map fun _ =>
          .forCourse course Rule.progressionReason).or
        (((standing.weakSkills.find? fun skill => standing.remedy? skill == some course).map
            fun skill => .forCourse course (Rule.remedialReason skill)).or
          ((standing.completions.find? fun done => course.prerequisite == some done.id).map
            fun done => .forCourse course (Rule.sequenceReason done))) := by
  rw [candidates, lastCandidate?_append, lastCandidate?_append, sound.progression_last published,
    sound.remediation_last published, sound.sequence_last published]

/-- A suggestion is a successor, a remedy or an open intermediate course. -/
theorem mem_suggestions {course : Course} (member : course ∈ standing.suggestions) :
    course ∈ standing.successors ∨
      (∃ skill ∈ standing.weakSkills, standing.remedy? skill = some course) ∨
      course ∈ standing.intermediates := by
  rcases List.mem_append.mp member with earlier | opening
  · refine (List.mem_append.mp earlier).imp_right fun remedy => .inl ?_
    obtain ⟨skill, weak, found⟩ := List.mem_filterMap.mp (List.mem_filter.mp remedy).1
    exact ⟨skill, List.mem_eraseDups.mp weak, found⟩
  · refine .inr (.inr ?_)
    unfold openings at opening
    unfold intermediates
    split at opening
    case isTrue progresses =>
        rw [List.mem_filter, Bool.and_eq_true] at opening
        rw [if_pos progresses]
        exact List.mem_filter.mpr ⟨opening.1, opening.2.1⟩
    case isFalse => cases opening

theorem suggestion_published {course : Course} (member : course ∈ standing.suggestions) :
    course ∈ standing.published := by
  rcases mem_suggestions member with successor | ⟨_, _, found⟩ | opened
  · exact (mem_successors.mp successor).1
  · exact (remedy?_found found).1
  · exact (mem_intermediates.mp opened).1

/-- No rule proposes a course that is not published. -/
theorem Sound.candidates_unpublished (sound : standing.Sound) {id : CourseId}
    (unpublished : ∀ course ∈ standing.published, course.id ≠ id) :
    lastCandidate? standing.candidates id = none := by
  rw [lastCandidate?_eq_none, ← List.mem_eraseDups, sound.candidates_ids]
  intro suggested
  obtain ⟨course, isSuggestion, sameId⟩ := List.mem_map.mp suggested
  exact unpublished course (suggestion_published isSuggestion) sameId

/-- The last candidate for a suggestion carries its reason. -/
theorem Sound.suggestion_last (sound : standing.Sound) {course : Course}
    (member : course ∈ standing.suggestions) :
    lastCandidate? standing.candidates course.id =
      some ⟨course.id, course.title, standing.reason course⟩ := by
  have published := suggestion_published member
  rw [sound.candidates_last published]
  unfold reason
  by_cases opened : course ∈ standing.intermediates
  · obtain ⟨_, progresses, intermediate⟩ := mem_intermediates.mp opened
    have found : standing.intermediates.find? (· == course) = some course :=
      find?_only opened (beq_self_eq_true course) fun _ _ same => beq_iff_eq.mp same
    rw [found, if_pos (by simp [progresses, intermediate])]
    rfl
  · have unopened : standing.intermediates.find? (· == course) = none := by
      rw [List.find?_eq_none]
      intro other isOther same
      exact opened (beq_iff_eq.mp same ▸ isOther)
    have stays : ¬(standing.progresses && course.level == .intermediate) = true := by
      intro opens
      rw [Bool.and_eq_true, beq_iff_eq] at opens
      exact opened (mem_intermediates.mpr ⟨published, opens⟩)
    rw [unopened, if_neg stays]
    cases remedied : standing.weakSkills.find?
        fun skill => standing.remedy? skill == some course with
    | some skill => rfl
    | none =>
        cases unlocked : standing.completions.find?
            fun done => course.prerequisite == some done.id with
        | some done => rfl
        | none =>
            -- Every suggestion has a reason, so this case does not arise.
            rcases mem_suggestions member with successor | ⟨skill, weak, found⟩ | opens
            · obtain ⟨_, done, completed, same⟩ := mem_successors.mp successor
              exact absurd (beq_iff_eq.mpr same) (List.find?_eq_none.mp unlocked done completed)
            · exact absurd (beq_iff_eq.mpr found) (List.find?_eq_none.mp remedied skill weak)
            · exact absurd opens opened

/-- Merging the candidates of all three rules gives the suggestions with their reasons. -/
theorem Sound.merge_candidates (sound : standing.Sound) :
    merge standing.candidates =
      standing.suggestions.map fun course =>
        ⟨course.id, course.title, standing.reason course⟩ := by
  symm
  apply eq_merge
  · rw [sound.candidates_ids, List.map_map]
    rfl
  · intro entry member
    obtain ⟨course, suggested, rfl⟩ := List.mem_map.mp member
    exact sound.suggestion_last suggested

end Standing

end CourseAdvisor
