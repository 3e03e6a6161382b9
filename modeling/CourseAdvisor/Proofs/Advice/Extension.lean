/-
This file proves what a further rule changes in what a rule set recommends, and that the order of
the rules does not decide which courses are recommended.
-/

import CourseAdvisor.Proofs.Advice.Advising
import CourseAdvisor.Proofs.Advice.Merging

namespace CourseAdvisor

open FirstOccurrences

/-- Further candidates add their new courses at the end. -/
theorem merge_append_ids (first second : List Recommendation) :
    (merge (first ++ second)).map (·.courseId) =
      (merge first).map (·.courseId) ++
        (second.map (·.courseId)).eraseDups.filter
          fun id => decide (id ∉ first.map (·.courseId)) := by
  rw [merge_ids, merge_ids, List.map_append, eraseDups_append_filter]

/-- Further candidates leave the entries of all other courses where they are and as they are. -/
theorem merge_append_kept {first second : List Recommendation} {entry : Recommendation}
    (unproposed : entry.courseId ∉ second.map (·.courseId)) (place : Nat) :
    (merge first)[place]? = some entry ↔ (merge (first ++ second))[place]? = some entry := by
  rw [merge_getElem?, merge_getElem?, lastCandidate?_append,
    lastCandidate?_eq_none.mpr unproposed, Option.none_or, List.map_append,
    eraseDups_append_filter, List.getElem?_append]
  split
  case isTrue => rfl
  case isFalse outside =>
      have absent : (first.map (·.courseId)).eraseDups[place]? = none :=
        List.getElem?_eq_none (Nat.le_of_not_lt outside)
      rw [absent]
      constructor
      · rintro ⟨standing, _⟩
        cases standing
      · rintro ⟨standing, _⟩
        have added := (List.mem_filter.mp (List.mem_of_getElem? standing)).1
        exact absurd (List.mem_eraseDups.mp added) unproposed

/-- Further candidates for a course replace its entry. -/
theorem merge_append_replaced {first second : List Recommendation} {entry : Recommendation}
    (member : entry ∈ merge (first ++ second))
    (proposed : entry.courseId ∈ second.map (·.courseId)) :
    lastCandidate? second entry.courseId = some entry := by
  have last := merge_last _ member
  rw [lastCandidate?_append] at last
  cases found : lastCandidate? second entry.courseId with
  | none => exact absurd proposed (lastCandidate?_eq_none.mp found)
  | some candidate => rwa [found, Option.some_or] at last

/-- A rule proposes a course when it has a candidate for the course. -/
def Rule.Proposes (rule : Rule) (context : Context) (id : CourseId) : Prop :=
  id ∈ (rule.candidates context).map (·.courseId)

instance (rule : Rule) (context : Context) (id : CourseId) :
    Decidable (rule.Proposes context id) :=
  inferInstanceAs (Decidable (id ∈ _))

namespace RuleSet

/-- A rule set proposes what one of its rules proposes. -/
def Proposes (set : RuleSet) (context : Context) (id : CourseId) : Prop :=
  ∃ rule ∈ set.rules, rule.Proposes context id

instance (set : RuleSet) (context : Context) (id : CourseId) :
    Decidable (set.Proposes context id) :=
  inferInstanceAs (Decidable (∃ rule ∈ set.rules, rule.Proposes context id))

theorem proposes_iff (set : RuleSet) (context : Context) (id : CourseId) :
    set.Proposes context id ↔ id ∈ (set.proposals context).map (·.courseId) := by
  simp only [Proposes, Rule.Proposes, proposals, List.map_flatMap, List.mem_flatMap]

theorem proposals_withRule (set : RuleSet) (rule : Rule) (context : Context) :
    (set.withRule rule).proposals context = set.proposals context ++ rule.candidates context := by
  simp [proposals, withRule]

/-- A course is recommended when it is proposed. -/
theorem mem_evaluate_ids (set : RuleSet) (context : Context) (id : CourseId) :
    id ∈ (set.evaluate context).value.map (·.courseId) ↔ set.Proposes context id := by
  rw [evaluate_eq, mem_merge_ids, proposes_iff]

/-- The courses of the set come first and as before. The courses that the further rule alone
proposes follow in the order in which it first proposes them. Entries of courses that the rule
does not propose stay as they are, and those of the others become the last candidate of the rule.
The order of the rules in the set does not decide which courses are recommended. -/
theorem evaluate_withRule (set : RuleSet) (rule : Rule) (context : Context) :
    ((set.withRule rule).evaluate context).value.map (·.courseId) =
        (set.evaluate context).value.map (·.courseId) ++
          ((rule.candidates context).map (·.courseId)).eraseDups.filter
            (fun id => decide (¬set.Proposes context id)) ∧
      (∀ (place : Nat) (entry : Recommendation), ¬rule.Proposes context entry.courseId →
        ((set.evaluate context).value[place]? = some entry ↔
          ((set.withRule rule).evaluate context).value[place]? = some entry)) ∧
      (∀ entry ∈ ((set.withRule rule).evaluate context).value,
        rule.Proposes context entry.courseId →
          ∃ earlier later, rule.candidates context = earlier ++ entry :: later ∧
            ∀ candidate ∈ later, candidate.courseId ≠ entry.courseId) ∧
      ∀ other : RuleSet, other.rules.Perm set.rules → ∀ id,
        id ∈ (other.evaluate context).value.map (·.courseId) ↔
          id ∈ (set.evaluate context).value.map (·.courseId) := by
  refine ⟨?_, ?_, ?_, ?_⟩
  · simp only [evaluate_eq, proposals_withRule, merge_append_ids, proposes_iff]
  · intro place entry unproposed
    rw [evaluate_eq, evaluate_eq, proposals_withRule]
    exact merge_append_kept unproposed place
  · intro entry member proposed
    rw [evaluate_eq, proposals_withRule] at member
    exact lastCandidate?_split (merge_append_replaced member proposed)
  · intro other permuted id
    rw [mem_evaluate_ids, mem_evaluate_ids]
    simp only [Proposes, permuted.mem_iff]

end RuleSet

/-- This rule proposes the same for every learner. -/
def Rule.constant (name : String) (candidates : List Recommendation) : Rule :=
  ⟨name, fun _ => candidates⟩

/-- These rules propose one course both. -/
def overlappingRules : RuleSet :=
  ⟨[.constant "FIRST" [⟨⟨"A"⟩, "Intro", "first"⟩, ⟨⟨"B"⟩, "Next", "first"⟩],
    .constant "SECOND" [⟨⟨"C"⟩, "Last", "second"⟩, ⟨⟨"A"⟩, "Intro", "second"⟩]]⟩

/-- This rule repeats a course of others and a course of its own. -/
def repetitiveRule : Rule :=
  .constant "THIRD" [⟨⟨"D"⟩, "New", "third"⟩, ⟨⟨"B"⟩, "Next", "third"⟩, ⟨⟨"D"⟩, "New", "again"⟩,
    ⟨⟨"B"⟩, "Next", "again"⟩]

/-- A learner without any data is enough for rules that look at nothing. -/
def blankContext : Context := .new [] [] []

/-- The further rule leaves one entry as it is and replaces another one, and the rules of the set
recommend the same courses the other way round. -/
theorem repetitiveRule_extends :
    ¬repetitiveRule.Proposes blankContext ⟨"A"⟩ ∧
      ((overlappingRules.withRule repetitiveRule).evaluate blankContext).value[0]? =
        some ⟨⟨"A"⟩, "Intro", "second"⟩ ∧
      repetitiveRule.Proposes blankContext ⟨"B"⟩ ∧
      (∃ earlier later, repetitiveRule.candidates blankContext =
          earlier ++ ⟨⟨"B"⟩, "Next", "again"⟩ :: later ∧
        ∀ candidate ∈ later, candidate.courseId ≠ ⟨"B"⟩) ∧
      overlappingRules.rules.reverse.Perm overlappingRules.rules ∧
      ∀ id, id ∈ (RuleSet.evaluate ⟨overlappingRules.rules.reverse⟩ blankContext).value.map
          (·.courseId) ↔
        id ∈ (overlappingRules.evaluate blankContext).value.map (·.courseId) := by
  obtain ⟨_, kept, replaced, permuted⟩ :=
    RuleSet.evaluate_withRule overlappingRules repetitiveRule blankContext
  have untouched : ¬repetitiveRule.Proposes blankContext ⟨"A"⟩ := by decide
  have touched : repetitiveRule.Proposes blankContext ⟨"B"⟩ := by decide
  have reversed : overlappingRules.rules.reverse.Perm overlappingRules.rules :=
    List.reverse_perm _
  have standing : (overlappingRules.evaluate blankContext).value[0]? =
      some ⟨⟨"A"⟩, "Intro", "second"⟩ := by decide
  have member : (⟨⟨"B"⟩, "Next", "again"⟩ : Recommendation) ∈
      ((overlappingRules.withRule repetitiveRule).evaluate blankContext).value := by decide
  exact ⟨untouched, (kept 0 ⟨⟨"A"⟩, "Intro", "second"⟩ untouched).mp standing, touched,
    replaced _ member touched, reversed, permuted ⟨_⟩ reversed⟩

end CourseAdvisor
