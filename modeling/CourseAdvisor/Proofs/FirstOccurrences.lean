/-
This file proves how a list keeps the first occurrence of each of its elements.
-/

import Mathlib.Data.List.Induction

namespace CourseAdvisor.FirstOccurrences

/-- A search finds the only element that passes the test. -/
theorem find?_only {α : Type} {list : List α} {test : α → Bool} {value : α}
    (member : value ∈ list) (passed : test value = true)
    (only : ∀ other ∈ list, test other = true → other = value) :
    list.find? test = some value := by
  cases found : list.find? test with
  | none => exact absurd passed (List.find?_eq_none.mp found value member)
  | some other =>
      rw [only other (List.mem_of_find?_eq_some found) (List.find?_some found)]

/-- A search does not depend on the order when all elements that pass the test are equal. -/
theorem find?_perm {α : Type} {list other : List α} {test : α → Bool} (permuted : list.Perm other)
    (agree : ∀ value ∈ list, test value = true → ∀ twin ∈ list, test twin = true → twin = value) :
    list.find? test = other.find? test := by
  symm
  cases found : list.find? test with
  | none =>
      rw [List.find?_eq_none] at found ⊢
      exact fun value member => found value (permuted.mem_iff.mpr member)
  | some value =>
      have member := List.mem_of_find?_eq_some found
      have passed := List.find?_some found
      refine find?_only (permuted.mem_iff.mp member) passed fun twin isOther twinPassed => ?_
      exact agree value member passed twin (permuted.mem_iff.mpr isOther) twinPassed

variable {α β : Type} [DecidableEq α] [DecidableEq β]

/-- A last element is a first occurrence when it is new. -/
theorem eraseDups_concat (list : List α) (last : α) :
    (list ++ [last]).eraseDups =
      if last ∈ list then list.eraseDups else list.eraseDups ++ [last] := by
  rw [List.eraseDups_append]
  by_cases old : last ∈ list
  · simp [List.removeAll, old]
  · simp [List.removeAll, old, List.eraseDups_cons]

/-- No first occurrence is repeated. -/
theorem eraseDups_nodup (list : List α) : list.eraseDups.Nodup := by
  induction list using List.reverseRecOn with
  | nil => exact List.nodup_nil
  | append_singleton list last ih =>
      rw [eraseDups_concat]
      split
      case isTrue => exact ih
      case isFalse fresh =>
          rw [← List.mem_eraseDups] at fresh
          exact List.nodup_append.mpr ⟨ih, List.pairwise_singleton _ last, by
            intro value member other isLast same
            rw [List.mem_singleton.mp isLast] at same
            exact fresh (same ▸ member)⟩

/-- A list without repetitions consists of first occurrences. -/
theorem eraseDups_of_nodup {list : List α} (distinct : list.Nodup) : list.eraseDups = list := by
  induction list using List.reverseRecOn with
  | nil => rfl
  | append_singleton list last ih =>
      rw [List.nodup_append] at distinct
      have fresh : last ∉ list := fun member =>
        distinct.2.2 last member last (List.mem_singleton_self last) rfl
      rw [eraseDups_concat, if_neg fresh, ih distinct.1]

/-- Dropping elements by a test commutes with dropping repetitions. -/
theorem eraseDups_filter (list : List α) (test : α → Bool) :
    (list.filter test).eraseDups = list.eraseDups.filter test := by
  induction list using List.reverseRecOn with
  | nil => rfl
  | append_singleton list last ih =>
      rw [List.filter_append, eraseDups_concat]
      by_cases passed : test last = true
      · rw [List.filter_cons_of_pos passed, List.filter_nil, eraseDups_concat, ih]
        by_cases old : last ∈ list
        · simp [old, passed]
        · simp [old, passed]
      · rw [List.filter_cons_of_neg passed, List.filter_nil, List.append_nil, ih]
        split
        · rfl
        · simp [passed]

/-- After a first list, the other list adds what the first does not have. -/
theorem eraseDups_append_filter (first second : List α) :
    (first ++ second).eraseDups =
      first.eraseDups ++ second.eraseDups.filter fun value => decide (value ∉ first) := by
  rw [List.eraseDups_append, ← eraseDups_filter]
  simp [List.removeAll]

/-- Blocks that share no elements keep the first occurrence of each block. -/
theorem eraseDups_flatMap (list : List α) (block : α → List β)
    (distinct : ∀ value ∈ list, (block value).Nodup)
    (apart : ∀ value ∈ list, ∀ other ∈ list, value ≠ other →
      ∀ part ∈ block value, part ∉ block other) :
    (list.flatMap block).eraseDups = list.eraseDups.flatMap block := by
  induction list using List.reverseRecOn with
  | nil => rfl
  | append_singleton list last ih =>
      have within (value : α) (member : value ∈ list) : value ∈ list ++ [last] :=
        List.mem_append_left _ member
      have lastMember : last ∈ list ++ [last] := by simp
      have earlier := ih (fun value member => distinct value (within value member))
        fun value member other otherMember =>
          apart value (within value member) other (within other otherMember)
      rw [List.flatMap_append, List.flatMap_singleton, eraseDups_append_filter, earlier,
        eraseDups_of_nodup (distinct last lastMember), eraseDups_concat]
      split
      case isTrue old =>
          have none : (block last).filter
              (fun part => decide (part ∉ list.flatMap block)) = [] := by
            apply List.filter_eq_nil_iff.mpr
            intro part member
            simpa using ⟨last, old, member⟩
          rw [none, List.append_nil]
      case isFalse fresh =>
          have all : (block last).filter
              (fun part => decide (part ∉ list.flatMap block)) = block last := by
            apply List.filter_eq_self.mpr
            intro part member
            simp only [List.mem_flatMap, decide_eq_true_eq, not_exists, not_and]
            intro other otherMember
            have different : last ≠ other := fun same => fresh (same ▸ otherMember)
            exact apart last lastMember other (within other otherMember) different part member
          rw [all, List.flatMap_append, List.flatMap_singleton]

/-- This is the first value that has been seen when it comes. -/
def repeated? (seen : List α) : List α → Option α
  | [] => none
  | value :: rest => if value ∈ seen then some value else repeated? (value :: seen) rest

/-- No value is repeated when the values are distinct and new. -/
theorem repeated?_eq_none {seen list : List α} :
    repeated? seen list = none ↔ list.Nodup ∧ ∀ value ∈ list, value ∉ seen := by
  induction list generalizing seen with
  | nil => simp [repeated?]
  | cons value rest ih =>
      rw [repeated?]
      by_cases old : value ∈ seen
      · simp [old]
      · rw [if_neg old, ih, List.nodup_cons, List.forall_mem_cons]
        simp only [List.mem_cons, not_or]
        constructor
        · rintro ⟨distinct, apart⟩
          exact ⟨⟨fun member => (apart value member).1 rfl, distinct⟩, old,
            fun other member => (apart other member).2⟩
        · rintro ⟨⟨fresh, distinct⟩, _, unseen⟩
          exact ⟨distinct, fun other member => ⟨fun same => fresh (same ▸ member),
            unseen other member⟩⟩

/-- Distinct and new values are seen in turn. -/
theorem repeated?_append {seen earlier : List α} (distinct : earlier.Nodup)
    (unseen : ∀ value ∈ earlier, value ∉ seen) (later : List α) :
    repeated? seen (earlier ++ later) = repeated? (earlier.reverse ++ seen) later := by
  induction earlier generalizing seen with
  | nil => rfl
  | cons value earlier ih =>
      obtain ⟨fresh, distinct⟩ := List.nodup_cons.mp distinct
      have next (other : α) (member : other ∈ earlier) : other ∉ value :: seen := by
        rw [List.mem_cons, not_or]
        exact ⟨fun same => fresh (same ▸ member), unseen other (List.mem_cons_of_mem value member)⟩
      rw [List.cons_append, repeated?, if_neg (unseen value List.mem_cons_self), ih distinct next]
      simp

/-- After distinct values, one of them is the first to be repeated. -/
theorem repeated?_split {earlier later : List α} {value : α} (distinct : earlier.Nodup)
    (again : value ∈ earlier) : repeated? [] (earlier ++ value :: later) = some value := by
  rw [repeated?_append distinct (by simp), repeated?, if_pos (by simpa using again)]

/-- What is repeated has been seen before the search or in front of where it stands, and everything
in front of it is new. -/
theorem repeated?_found {seen list : List α} {value : α} (found : repeated? seen list = some value) :
    ∃ earlier later, list = earlier ++ value :: later ∧ earlier.Nodup ∧
      (∀ other ∈ earlier, other ∉ seen) ∧ (value ∈ seen ∨ value ∈ earlier) := by
  induction list generalizing seen with
  | nil => cases found
  | cons head rest ih =>
      rw [repeated?] at found
      split at found
      case isTrue old =>
          obtain rfl := Option.some.inj found
          exact ⟨[], rest, rfl, List.nodup_nil, by simp, .inl old⟩
      case isFalse fresh =>
          obtain ⟨earlier, later, rfl, distinct, unseen, again⟩ := ih found
          have absent : head ∉ earlier := fun member => unseen head member List.mem_cons_self
          refine ⟨head :: earlier, later, rfl, List.nodup_cons.mpr ⟨absent, distinct⟩, ?_, ?_⟩
          · exact List.forall_mem_cons.mpr
              ⟨fresh, fun other member old => unseen other member (List.mem_cons_of_mem _ old)⟩
          · simp only [List.mem_cons] at again ⊢
            rcases again with (isHead | old) | member
            · exact .inr (.inl isHead)
            · exact .inl old
            · exact .inr (.inr member)

/-- The first value that is repeated comes after distinct values, of which it is one. -/
theorem repeated?_eq_some {list : List α} {value : α} :
    repeated? [] list = some value ↔
      ∃ earlier later, list = earlier ++ value :: later ∧ earlier.Nodup ∧ value ∈ earlier := by
  constructor
  · intro found
    obtain ⟨earlier, later, split, distinct, _, again⟩ := repeated?_found found
    exact ⟨earlier, later, split, distinct, again.resolve_left List.not_mem_nil⟩
  · rintro ⟨earlier, later, rfl, distinct, again⟩
    exact repeated?_split distinct again

end CourseAdvisor.FirstOccurrences
