/-
This file proves which requests carry an identity and whose it is.
-/

import Mathlib.Data.List.TakeWhile
import CourseAdvisor.Http.Request

namespace CourseAdvisor.Http

/-- The core of a value stands between padding, and neither starts nor ends with it. -/
structure IsCore (core value : List UInt8) : Prop where
  padded : ∃ before after, value = before ++ (core ++ after) ∧
    (∀ byte ∈ before, isPadding byte = true) ∧ ∀ byte ∈ after, isPadding byte = true
  starts : ∀ byte ∈ core.head?, isPadding byte = false
  ends : ∀ byte ∈ core.getLast?, isPadding byte = false

/-- What does not start with padding stays as it is. -/
theorem dropPadding_eq {value : List UInt8}
    (starts : ∀ byte ∈ value.head?, isPadding byte = false) :
    value.dropWhile isPadding = value := by
  cases value with
  | nil => rfl
  | cons byte rest => exact List.dropWhile_cons_of_neg (by simp [starts byte rfl])

/-- What is left after padding does not start with padding. -/
theorem dropPadding_starts (value : List UInt8) :
    ∀ byte ∈ (value.dropWhile isPadding).head?, isPadding byte = false := by
  intro byte isHead
  have stopped := List.head?_dropWhile_not isPadding value
  rw [Option.mem_def.mp isHead] at stopped
  simpa using stopped

/-- Trimming gives the core of a value. -/
theorem trimmed_core (value : List UInt8) : IsCore (trimmed value) value := by
  have parts := List.takeWhile_append_dropWhile (p := isPadding) (l := value)
  have behind : (value.dropWhile isPadding) = trimmed value ++
      ((value.dropWhile isPadding).reverse.takeWhile isPadding).reverse := by
    rw [trimmed, ← List.reverse_append, List.takeWhile_append_dropWhile, List.reverse_reverse]
  refine ⟨⟨value.takeWhile isPadding,
    ((value.dropWhile isPadding).reverse.takeWhile isPadding).reverse, ?_, ?_, ?_⟩, ?_, ?_⟩
  · rw [← behind, parts]
  · exact fun byte member => List.all_eq_true.mp List.all_takeWhile byte member
  · intro byte member
    rw [List.mem_reverse] at member
    exact List.all_eq_true.mp List.all_takeWhile byte member
  · intro byte isHead
    obtain ⟨rest, same⟩ := List.head?_eq_some_iff.mp isHead
    apply dropPadding_starts value byte
    rw [behind, same]
    rfl
  · intro byte isLast
    rw [trimmed, List.getLast?_reverse] at isLast
    exact dropPadding_starts _ byte isLast

/-- A value has only one core. -/
theorem IsCore.trimmed_eq {core value : List UInt8} (isCore : IsCore core value) :
    trimmed value = core := by
  obtain ⟨⟨before, after, rfl, beforePadding, afterPadding⟩, starts, ends⟩ := isCore
  unfold trimmed
  rw [List.dropWhile_append_of_pos beforePadding]
  by_cases empty : core = []
  · subst empty
    rw [List.nil_append, List.dropWhile_eq_nil_iff.mpr afterPadding]
    rfl
  · have firstKept : (core ++ after).dropWhile isPadding = core ++ after := by
      apply dropPadding_eq
      obtain ⟨first, others, rfl⟩ := List.exists_cons_of_ne_nil empty
      exact starts
    rw [firstKept, List.reverse_append, List.dropWhile_append_of_pos (by simpa using afterPadding),
      dropPadding_eq (by rwa [List.head?_reverse]), List.reverse_reverse]

namespace Request

/-- This is the value of the first header with the name, in any letter case. -/
def HasFirst (request : Request) (name : String) (value : List UInt8) : Prop :=
  ∃ before spelling after, request.headers = before ++ (spelling, value) :: after ∧
    spelling.toLower = name ∧ ∀ header ∈ before, header.1.toLower ≠ name

variable {request : Request} {name : String}

theorem header?_eq_some {value : List UInt8} :
    request.header? name = some value ↔ request.HasFirst name value := by
  unfold header? HasFirst
  rw [Option.map_eq_some_iff]
  simp only [List.find?_eq_some_iff_append, beq_iff_eq, Bool.not_eq_true', beq_eq_false_iff_ne]
  constructor
  · rintro ⟨⟨spelling, _⟩, ⟨named, before, after, same, others⟩, rfl⟩
    exact ⟨before, spelling, after, same, named, others⟩
  · rintro ⟨before, spelling, after, same, named, others⟩
    exact ⟨(spelling, value), ⟨named, before, after, same, others⟩, rfl⟩

theorem header?_eq_none :
    request.header? name = none ↔ ∀ header ∈ request.headers, header.1.toLower ≠ name := by
  simp [header?]

/-- A request is anonymous when it has no identity header, or when the first one has a byte that is
neither a tab nor printable, or nothing but padding. -/
def Anonymous (request : Request) : Prop :=
  (∀ header ∈ request.headers, header.1.toLower ≠ "x-learner-id") ∨
    ∃ value, request.HasFirst "x-learner-id" value ∧
      ((∃ byte ∈ value, byte ≠ 0x09 ∧ ¬(0x20 ≤ byte ∧ byte ≤ 0x7e)) ∨
        ∀ byte ∈ value, byte = 0x09 ∨ byte = 0x20)

/-- A request carries the id that is the core of its first identity header. -/
def Carries (request : Request) (learner : LearnerId) : Prop :=
  ∃ value core, request.HasFirst "x-learner-id" value ∧
    (∀ byte ∈ value, byte = 0x09 ∨ (0x20 ≤ byte ∧ byte ≤ 0x7e)) ∧ IsCore core value ∧ core ≠ [] ∧
      learner.text = String.ofList (core.map fun byte => Char.ofNat byte.toNat)

/-- Every byte of a value is visible when it is a tab or printable. -/
theorem all_isVisible {value : List UInt8} :
    value.all isVisible = true ↔ ∀ byte ∈ value, byte = 0x09 ∨ (0x20 ≤ byte ∧ byte ≤ 0x7e) := by
  simp [isVisible]

/-- Nothing is left of a value that is nothing but padding. -/
theorem trimmed_eq_nil {value : List UInt8} :
    trimmed value = [] ↔ ∀ byte ∈ value, byte = 0x09 ∨ byte = 0x20 := by
  have padding : (∀ byte ∈ value, byte = 0x09 ∨ byte = 0x20) ↔
      ∀ byte ∈ value, isPadding byte = true := by
    simp [isPadding]
  rw [padding]
  constructor
  · intro empty
    obtain ⟨before, after, same, beforePadding, afterPadding⟩ := (trimmed_core value).padded
    rw [empty, List.nil_append] at same
    intro byte member
    rw [same] at member
    exact (List.mem_append.mp member).elim (beforePadding byte) (afterPadding byte)
  · intro all
    exact IsCore.trimmed_eq ⟨⟨value, [], by simp, all, by simp⟩, by simp, by simp⟩

theorem learner?_absent (absent : request.header? identityHeader = none) :
    request.learner? = none := by
  rw [learner?, absent]
  rfl

/-- The first identity header names a learner when it is visible and has a core. -/
theorem learner?_eq {value : List UInt8} (found : request.header? identityHeader = some value) :
    request.learner? =
      if value.all isVisible = true ∧ trimmed value ≠ [] then
        some ⟨String.ofList ((trimmed value).map fun byte => Char.ofNat byte.toNat)⟩
      else none := by
  unfold learner? guard
  rw [found, Option.bind_eq_bind, Option.bind_some]
  dsimp only
  by_cases visible : value.all isVisible = true
  · rw [if_pos visible]
    by_cases empty : trimmed value = []
    · rw [if_neg (by simp [empty]), if_neg fun both => both.2 empty]
      rfl
    · rw [if_pos (by simpa using empty), if_pos ⟨visible, empty⟩]
      rfl
  · have unfit : ¬(value.all isVisible = true ∧ trimmed value ≠ []) := fun both => visible both.1
    rw [if_neg visible, if_neg unfit]
    rfl

/-- A request carries an id exactly when that is the learner of the request. -/
theorem learner?_eq_some {learner : LearnerId} :
    request.learner? = some learner ↔ request.Carries learner := by
  constructor
  · intro known
    cases found : request.header? identityHeader with
    | none => cases known.symm.trans (learner?_absent found)
    | some value =>
        rw [learner?_eq found] at known
        split at known
        case isTrue sound =>
            obtain rfl := Option.some.inj known
            exact ⟨value, trimmed value, header?_eq_some.mp found, all_isVisible.mp sound.1,
              trimmed_core value, sound.2, rfl⟩
        case isFalse => cases known
  · rintro ⟨value, core, found, visible, isCore, nonempty, same⟩
    rw [learner?_eq (header?_eq_some.mpr found), isCore.trimmed_eq,
      if_pos ⟨all_isVisible.mpr visible, nonempty⟩, ← same]

/-- A request without a learner is anonymous. -/
theorem learner?_eq_none : request.learner? = none ↔ request.Anonymous := by
  cases found : request.header? identityHeader with
  | none => exact ⟨fun _ => .inl (header?_eq_none.mp found), fun _ => learner?_absent found⟩
  | some value =>
      have first := header?_eq_some.mp found
      have blocked : request.learner? = none ↔
          (∃ byte ∈ value, byte ≠ 0x09 ∧ ¬(0x20 ≤ byte ∧ byte ≤ 0x7e)) ∨
            ∀ byte ∈ value, byte = 0x09 ∨ byte = 0x20 := by
        rw [learner?_eq found, ← trimmed_eq_nil, ite_eq_right_iff, all_isVisible]
        simp only [reduceCtorEq, imp_false, not_and_or, not_not, ne_eq, not_forall, not_or,
          exists_prop]
      rw [blocked]
      constructor
      · exact fun unfit => .inr ⟨value, first, unfit⟩
      · rintro (absent | ⟨other, isFirst, unfit⟩)
        · cases found.symm.trans (header?_eq_none.mpr absent)
        · obtain rfl := Option.some.inj (found.symm.trans (header?_eq_some.mpr isFirst))
          exact unfit

end Request

end CourseAdvisor.Http
