/-
This file proves which names are read as the known levels, and that all ways to write a level carry
the same name.
-/

import CourseAdvisor.Proofs.Snapshot.WrittenRecords
import CourseAdvisor.Proofs.Text.LowerCase

namespace CourseAdvisor

open Json Text

namespace Level

/-- These are the known levels under their names. -/
def knownNames : List (String × Level) :=
  [("beginner", .beginner), ("intermediate", .intermediate), ("advanced", .advanced)]

/-- The name is the known one, with each letter in either case. -/
def IsVariant (known name : String) : Prop := List.Forall₂ IsCaseOf known.toList name.toList

instance (known name : String) : Decidable (IsVariant known name) :=
  inferInstanceAs (Decidable (List.Forall₂ IsCaseOf known.toList name.toList))

/-- The lower case of a name tells which known level it names, if any. -/
def ofLowered (lowered name : String) : Level :=
  if lowered = "beginner" then .beginner
  else if lowered = "intermediate" then .intermediate
  else if lowered = "advanced" then .advanced
  else .other name

/-- None of the known names has the letter of the Kelvin sign. -/
theorem knownNames_own :
    ∀ pair ∈ knownNames, ∀ small ∈ pair.1.toList, small ∈ ownLetters := by
  have checked : ∀ pair ∈ knownNames,
      (pair.1.toList.all fun small => decide (small ∈ ownLetters)) = true := by
    decide
  simpa only [List.all_eq_true, decide_eq_true_eq] using checked

theorem toLower_beyond {char : Char} (beyond : 128 ≤ char.toNat) : char.toLower = char := by
  unfold Char.toLower
  apply dif_neg
  intro capital
  have within : char.toNat ≤ 90 := UInt32.le_iff_toNat_le.mp capital.2
  omega

/-- What a name is lowered to here is its lower case, as far as letters of names go. -/
theorem lowered_lowers (char : Char) : Lowers char (lowered char) := by
  unfold lowered
  split
  case isTrue dotted =>
      refine .inr ⟨'\u0307', by simp, by decide, fun small isLetter => ?_⟩
      exact (not_isCaseOf (by rw [dotted]; decide) small isLetter).2
  case isFalse =>
      split
      case isTrue kelvin => exact .single (by rw [kelvin]; decide) (by decide)
      case isFalse =>
          by_cases ascii : char.toNat < 128
          · exact .inl ⟨char.toLower, rfl, toLower_eq_iff ascii⟩
          · have beyond : 128 ≤ char.toNat := Nat.le_of_not_lt ascii
            rw [toLower_beyond beyond]
            exact .single beyond fun isLetter => (not_isCaseOf beyond char isLetter).1 rfl

theorem letters_eq_iff {known : String × Level} (isKnown : known ∈ knownNames) (name : String) :
    name.toList.flatMap lowered = known.1.toList ↔ IsVariant known.1 name := by
  have lowers : List.Forall₂ Lowers name.toList (name.toList.map lowered) := by
    rw [List.forall₂_map_right_iff, List.forall₂_same]
    exact fun char _ => lowered_lowers char
  rw [List.flatMap_def]
  exact flatten_eq_iff lowers (knownNames_own known isKnown)

/-- The letters of a name and its lower case tell the same level. -/
theorem ofString_eq_ofLowered (endsWord : List Char → List Char → Bool) (name : String) :
    ofString name = ofLowered (lowerCase endsWord name) name := by
  have same {known : String × Level} (isKnown : known ∈ knownNames) :
      name.toList.flatMap lowered = known.1.toList ↔ lowerCase endsWord name = known.1 := by
    rw [letters_eq_iff isKnown, lowerCase_eq_iff endsWord name (knownNames_own known isKnown)]
    rfl
  have beginner := @same ("beginner", .beginner) (by decide)
  have intermediate := @same ("intermediate", .intermediate) (by decide)
  have advanced := @same ("advanced", .advanced) (by decide)
  simp only [ofString, ofLowered, beginner, intermediate, advanced]

/-- A name is read as the known level whose name it is a variant of. -/
theorem ofString_known {known : String × Level} (isKnown : known ∈ knownNames) {name : String}
    (variant : IsVariant known.1 name) : ofString name = known.2 := by
  have lowered := (lowerCase_eq_iff (fun _ _ => false) name (knownNames_own known isKnown)).mpr
    variant
  have levels : ∀ known ∈ knownNames, ofLowered known.1 name = known.2 := by
    simp [knownNames, ofLowered]
  rw [ofString_eq_ofLowered fun _ _ => false, lowered]
  exact levels known isKnown

/-- A name that is no variant of a known one is kept. -/
theorem ofString_other {name : String} (unknown : ∀ known ∈ knownNames, ¬IsVariant known.1 name) :
    ofString name = .other name := by
  have different : ∀ known ∈ knownNames, name.toList.flatMap lowered ≠ known.1.toList :=
    fun known isKnown same => unknown known isKnown ((letters_eq_iff isKnown name).mp same)
  unfold ofString
  rw [if_neg (different ("beginner", .beginner) (by decide)),
    if_neg (different ("intermediate", .intermediate) (by decide)),
    if_neg (different ("advanced", .advanced) (by decide))]

theorem known_ne_other {known : String × Level} (isKnown : known ∈ knownNames) (kept : String) :
    known.2 ≠ .other kept := by
  have all : ∀ known ∈ knownNames, known.2 ≠ .other kept := by simp [knownNames]
  exact all known isKnown

/-- A name is a variant of a known one or kept. -/
theorem ofString_cases (name : String) :
    (∃ known ∈ knownNames, IsVariant known.1 name ∧ ofString name = known.2) ∨
      (∀ known ∈ knownNames, ¬IsVariant known.1 name) ∧ ofString name = .other name := by
  by_cases unknown : ∀ known ∈ knownNames, ¬IsVariant known.1 name
  case pos => exact .inr ⟨unknown, ofString_other unknown⟩
  case neg =>
      push Not at unknown
      obtain ⟨known, isKnown, variant⟩ := unknown
      exact .inl ⟨known, isKnown, variant, ofString_known isKnown variant⟩

theorem ofString_eq_known_iff {known : String × Level} (isKnown : known ∈ knownNames)
    {name : String} : ofString name = known.2 ↔ IsVariant known.1 name := by
  constructor
  case mp =>
      intro same
      rcases ofString_cases name with ⟨other, isOther, variant, read⟩ | ⟨_, read⟩
      · have distinct : (knownNames.map Prod.snd).Nodup := by decide
        rwa [List.inj_on_of_nodup_map distinct isOther isKnown (read.symm.trans same)] at variant
      · exact absurd (same.symm.trans read) (known_ne_other isKnown name)
  case mpr => exact ofString_known isKnown

theorem ofString_eq_other_iff {name kept : String} :
    ofString name = .other kept ↔ kept = name ∧ ∀ known ∈ knownNames, ¬IsVariant known.1 name := by
  constructor
  case mp =>
      intro same
      rcases ofString_cases name with ⟨known, isKnown, _, read⟩ | ⟨unknown, read⟩
      · exact absurd (read.symm.trans same) (known_ne_other isKnown kept)
      · exact ⟨Level.other.inj (same.symm.trans read), unknown⟩
  case mpr =>
      rintro ⟨rfl, unknown⟩
      exact ofString_other unknown

/-- A level is named by a name when the lower case of the name tells the level, and all ways to
write the level carry the known name or the name as it is. -/
structure NamedBy (name : String) (level : Level) : Prop where
  lowered : ∀ endsWord, level = ofLowered (lowerCase endsWord name) name
  known : ∀ known ∈ knownNames, level = known.2 ↔ IsVariant known.1 name
  other : ∀ kept, level = .other kept ↔
    kept = name ∧ ∀ known ∈ knownNames, ¬IsVariant known.1 name
  text : level = .other name ∧ level.toString = name ∨
    ∃ known ∈ knownNames, level = known.2 ∧ level.toString = known.1
  reread : ofString level.toString = level
  shown : s!"{level}" = level.toString
  released : level.intoString = level.toString
  written : decode readText (Json.text level.intoString).compactText = .ok level.toString
  stored : ∀ course : Course, course.level = level → ∃ members,
    course.toJson = .object members ∧ members.lookup "level" = some (.text level.toString)

theorem intoString_eq (level : Level) : level.intoString = level.toString := by
  cases level <;> rfl

/-- Every name names the level that it is read as. -/
theorem ofString_namedBy (name : String) : NamedBy name (ofString name) := by
  constructor
  case lowered => exact fun endsWord => ofString_eq_ofLowered endsWord name
  case known => exact fun known isKnown => ofString_eq_known_iff isKnown
  case other => exact fun kept => ofString_eq_other_iff
  case text =>
      rcases ofString_cases name with ⟨known, isKnown, _, read⟩ | ⟨_, read⟩
      · have texts : ∀ known ∈ knownNames, known.2.toString = known.1 := by decide
        exact .inr ⟨known, isKnown, read, read ▸ texts known isKnown⟩
      · exact .inl ⟨read, read ▸ rfl⟩
  case reread => exact canonical_ofString name
  case shown => rfl
  case released => exact intoString_eq _
  case written =>
      rw [intoString_eq]
      exact (Reads.text _).decoded
  case stored =>
      intro course same
      rw [← same]
      exact ⟨_, rfl, rfl⟩

end Level

end CourseAdvisor
