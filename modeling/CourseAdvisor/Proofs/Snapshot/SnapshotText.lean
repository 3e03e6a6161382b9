/-
This file proves that the text of an accepted snapshot is accepted as the same snapshot.
-/

import CourseAdvisor.Proofs.Json.Yielding
import CourseAdvisor.Proofs.Snapshot.WrittenRecords
import CourseAdvisor.Store

namespace CourseAdvisor

open Json RecordFormat

/-- Every course that is read has a canonical level. -/
theorem Course.format_yields : Yields format.read fun course => course.level.Canonical := by
  have blank : format.blank.level.Canonical := Level.canonical_ofString ""
  have preserves : format.Preserves fun course => course.level.Canonical := by
    intro field member
    simp only [format, List.mem_cons, List.not_mem_nil, or_false] at member
    rcases member with rfl | rfl | rfl | rfl | rfl | rfl | rfl
    case inr.inr.inl =>
        exact Field.required_keeps fun _ name _ _ _ _ => Level.canonical_ofString name
    -- No other field touches the level.
    all_goals
      first
      | exact Field.required_keeps fun _ _ _ _ _ sound => sound
      | exact Field.optional_keeps fun _ _ _ _ _ sound => sound
  exact read_yields blank preserves

namespace Snapshot

/-- The levels of a snapshot are canonical when those of its courses are. -/
def Canonical (snapshot : Snapshot) : Prop := ∀ course ∈ snapshot.courses, course.level.Canonical

/-- Every snapshot that is read has canonical levels. -/
theorem format_yields : Yields format.read Canonical := by
  have blank : Canonical format.blank := by simp [Canonical, format, empty]
  have preserves : format.Preserves Canonical := by
    intro field member
    simp only [format, List.mem_cons, List.not_mem_nil, or_false] at member
    rcases member with rfl | rfl | rfl <;> apply Field.optional_keeps
    case inl => exact fun _ courses _ read _ _ => Course.format_yields.list read
    all_goals exact fun _ _ _ _ _ sound => sound
  exact read_yields blank preserves

/-- A snapshot with canonical levels is read from what it is written as when its scores are. -/
theorem reads {snapshot : Snapshot} (canonical : snapshot.Canonical)
    (scores : ∀ result ∈ snapshot.challengeResults,
      decode readNumber (result.score.text .interchange) = .ok result.score) :
    Reads format.read snapshot.toJson.tokens snapshot := by
  have courses := Reads.written fun course member => Course.reads (canonical course member)
  have enrollments := Reads.written fun enrollment (_ : enrollment ∈ snapshot.enrollments) =>
    enrollment.reads
  have results := Reads.written fun result member => ChallengeResult.reads (scores result member)
  have members : List.Forall₂ format.ReadsMember
      [("courses", (Json.list (snapshot.courses.map Course.toJson)).tokens),
        ("enrollments", (Json.list (snapshot.enrollments.map Enrollment.toJson)).tokens),
        ("challengeResults",
          (Json.list (snapshot.challengeResults.map ChallengeResult.toJson)).tokens)] _ :=
    .cons (readsMember_optional rfl courses) <|
      .cons (readsMember_optional rfl enrollments) <|
        .cons (readsMember_optional rfl results) .nil
  exact .object members (.filter _ (by simp)) (by simp [format, Field.optional])

/-- An accepted text is read as its snapshot, which passes its checks. -/
theorem ofText_eq_ok {text : String} {snapshot : Snapshot} :
    ofText text = .ok snapshot ↔
      decode format.read text = .ok snapshot ∧ snapshot.defect? = none := by
  unfold ofText
  cases decode format.read text with
  | error fault => simp
  | ok found =>
      simp only [Except.ok.injEq]
      cases checked : found.defect? with
      | some defect =>
          simp only [reduceCtorEq, false_iff, not_and]
          rintro rfl
          simp [checked]
      | none =>
          simp only [Except.ok.injEq]
          constructor
          · rintro rfl
            exact ⟨rfl, checked⟩
          · exact And.left

/-- A snapshot that is accepted in any form is accepted again from its compact text, and is then
written as before. -/
theorem ofText_compactText {text : String} {snapshot : Snapshot}
    (accepted : ofText text = .ok snapshot)
    (scores : ∀ result ∈ snapshot.challengeResults,
      decode readNumber (result.score.text .interchange) = .ok result.score) :
    ∃ again, ofText snapshot.toJson.compactText = .ok again ∧ again = snapshot ∧
      again.toJson.compactText = snapshot.toJson.compactText := by
  obtain ⟨decoded, valid⟩ := ofText_eq_ok.mp accepted
  have canonical : snapshot.Canonical := format_yields.decoded decoded
  exact ⟨snapshot, ofText_eq_ok.mpr ⟨(reads canonical scores).decoded, valid⟩, rfl, rfl⟩

/-- This text mixes both forms of records, blanks, escapes, unknown keys, nulls and letter case. -/
def mixedText : String :=
  "\x7b \"challengeResults\": [\x7b\"userId\":\"u1\",\"score\":35,\"skill\":\"Rust\"\x7d,\n" ++
  "[\"u1\", 62.5, \"Go\"]], \"courses\": [[\"A\",\"Intro\\u0020\\n\",\"BEGINNER\"]," ++
  "\x7b\"extra\":\x7b\x7d,\"level\":\"Expert\",\"title\":\"Next\",\"id\":\"B\"," ++
  "\"prerequisite\":\"A\",\"skill\":null\x7d]\x7d"

def mixedSnapshot : Snapshot where
  courses := [.new ⟨"A"⟩ "Intro \n" .beginner,
    (Course.new ⟨"B"⟩ "Next" (.other "Expert")).withPrerequisite ⟨"A"⟩]
  enrollments := []
  challengeResults := [⟨⟨"u1"⟩, .ofNat 35, "Rust"⟩,
    ⟨⟨"u1"⟩, .ofRatio false 125 2 (by decide), "Go"⟩]

/-- The mixed text and the compact one are texts of the same snapshot. -/
theorem mixedSnapshot_rewritten :
    ofText mixedText = .ok mixedSnapshot ∧ mixedText ≠ mixedSnapshot.toJson.compactText ∧
      ∃ again, ofText mixedSnapshot.toJson.compactText = .ok again ∧ again = mixedSnapshot ∧
        again.toJson.compactText = mixedSnapshot.toJson.compactText := by
  have accepted : ofText mixedText = .ok mixedSnapshot := by decide +kernel
  have scores : ∀ result ∈ mixedSnapshot.challengeResults,
      decode readNumber (result.score.text .interchange) = .ok result.score := by decide +kernel
  exact ⟨accepted, by decide +kernel, ofText_compactText accepted scores⟩

end Snapshot

end CourseAdvisor
