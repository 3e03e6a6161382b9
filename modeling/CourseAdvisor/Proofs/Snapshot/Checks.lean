/-
This file proves what the checks of a snapshot let through and what they report.
-/

import CourseAdvisor.Files.FileState
import CourseAdvisor.Proofs.Snapshot.SnapshotText
import CourseAdvisor.Proofs.Snapshot.Validity

namespace CourseAdvisor

open FirstOccurrences

namespace Double

/-- A percentage is a finite number from zero to a hundred, and either zero counts. -/
def IsPercentage (score : Double) : Prop :=
  ∃ negative magnitude, score = .finite negative magnitude ∧
    0 ≤ signed negative magnitude.units ∧
    signed negative magnitude.units ≤ ((100 * Nat.pow 2 scale : Nat) : Int)

/-- A hundred is a whole number of units. -/
theorem hundred_position? :
    (ofNat 100).position? = some ((100 * Nat.pow 2 scale : Nat) : Int) := by
  decide +kernel

theorem hundred_lt_limit : 100 * Nat.pow 2 scale < limit := by decide +kernel

end Double

open Double

theorem ChallengeResult.inRange_iff (result : ChallengeResult) :
    result.InRange ↔ result.score.IsPercentage := by
  have inRange : result.InRange ↔ ∃ place ∈ result.score.position?,
      0 ≤ place ∧ place ≤ ((100 * Nat.pow 2 scale : Nat) : Int) := by
    constructor
    · rintro ⟨⟨_, ⟨⟩, place, isPlace, above⟩, other, isOther, high, isHigh, below⟩
      obtain rfl := Option.some.inj (isPlace.symm.trans isOther)
      obtain rfl := Option.some.inj (hundred_position?.symm.trans isHigh)
      exact ⟨place, isPlace, above, below⟩
    · rintro ⟨place, isPlace, above, below⟩
      exact ⟨⟨0, rfl, place, isPlace, above⟩, place, isPlace, _, hundred_position?, below⟩
  rw [inRange, IsPercentage]
  cases result.score with
  | notNumber =>
      refine iff_of_false ?_ ?_
      · rintro ⟨_, ⟨⟩, _⟩
      · rintro ⟨_, _, ⟨⟩, _⟩
  | infinite negative =>
      refine iff_of_false ?_ ?_
      case refine_2 => rintro ⟨_, _, ⟨⟩, _⟩
      rintro ⟨_, ⟨⟩, above, below⟩
      have beyond := hundred_lt_limit
      cases negative with
      | false => exact Nat.not_le_of_lt beyond (Int.ofNat_le.mp below)
      | true =>
          change 0 ≤ -(limit : Int) at above
          omega
  | finite negative magnitude =>
      constructor
      · rintro ⟨_, ⟨⟩, bounds⟩
        exact ⟨_, _, rfl, bounds⟩
      · rintro ⟨_, _, ⟨⟩, bounds⟩
        exact ⟨_, rfl, bounds⟩

namespace Snapshot

/-- In a valid snapshot an id stands for one course, and every score is a percentage. -/
structure Valid (snapshot : Snapshot) : Prop where
  distinct : (snapshot.courses.map (·.id)).Nodup
  scores : ∀ result ∈ snapshot.challengeResults, result.score.IsPercentage

/-- This is what has to be reported of a snapshot, with the wording: the first course that repeats
an earlier id, whatever the scores are, and with distinct ids the first score that is no
percentage. -/
inductive Reports (snapshot : Snapshot) : Defect → String → Prop where
  | repeated {earlier later : List Course} {course : Course}
      (split : snapshot.courses = earlier ++ course :: later)
      (distinct : (earlier.map (·.id)).Nodup) (again : course.id ∈ earlier.map (·.id)) :
      Reports snapshot (.duplicateCourse course.id) ("duplicate course id: " ++ course.id.text)
  | outOfRange {earlier later : List ChallengeResult} {result : ChallengeResult}
      (distinct : (snapshot.courses.map (·.id)).Nodup)
      (split : snapshot.challengeResults = earlier ++ result :: later)
      (fine : ∀ other ∈ earlier, other.score.IsPercentage) (bad : ¬result.score.IsPercentage) :
      Reports snapshot (.scoreOutOfRange result)
        ("score " ++ result.score.text .plain ++ " for learner " ++ result.userId.text ++ " on " ++
          result.skill ++ " is outside 0-100")

variable {snapshot : Snapshot}

theorem defect?_eq_none_iff_valid : snapshot.defect? = none ↔ snapshot.Valid := by
  rw [defect?_eq_none]
  simp only [ChallengeResult.inRange_iff]
  exact ⟨fun ⟨distinct, scores⟩ => ⟨distinct, scores⟩, fun ⟨distinct, scores⟩ => ⟨distinct, scores⟩⟩

/-- The search for a repeated id ends at the first course that repeats an earlier id. -/
theorem repeatedId?_eq_some {courses : List Course} {id : CourseId} :
    repeatedId? [] courses = some id ↔
      ∃ earlier course later, courses = earlier ++ course :: later ∧ course.id = id ∧
        (earlier.map (·.id)).Nodup ∧ id ∈ earlier.map (·.id) := by
  rw [repeatedId?_eq, repeated?_eq_some]
  constructor
  · rintro ⟨ids, laterIds, split, distinct, again⟩
    obtain ⟨earlier, rest, rfl, rfl, isRest⟩ := List.map_eq_append_iff.mp split
    obtain ⟨course, later, rfl, sameId, rfl⟩ := List.map_eq_cons_iff.mp isRest
    exact ⟨earlier, course, later, rfl, sameId, distinct, again⟩
  · rintro ⟨earlier, course, later, rfl, rfl, distinct, again⟩
    exact ⟨earlier.map (·.id), later.map (·.id), by simp, distinct, again⟩

/-- The search for a bad score ends at the first score that is no percentage. -/
theorem outOfRange?_eq_some {results : List ChallengeResult} {result : ChallengeResult} :
    results.find? (fun result => decide (¬result.InRange)) = some result ↔
      ∃ earlier later, results = earlier ++ result :: later ∧
        (∀ other ∈ earlier, other.score.IsPercentage) ∧ ¬result.score.IsPercentage := by
  rw [List.find?_eq_some_iff_append]
  simp only [ChallengeResult.inRange_iff, decide_eq_true_eq, Bool.not_eq_true',
    decide_eq_false_iff_not, not_not]
  constructor
  · rintro ⟨bad, earlier, later, split, fine⟩
    exact ⟨earlier, later, split, fine, bad⟩
  · rintro ⟨earlier, later, split, fine, bad⟩
    exact ⟨bad, earlier, later, split, fine⟩

/-- What the checks find is what has to be reported. -/
theorem defect?_eq_some {defect : Defect} {report : String} :
    snapshot.defect? = some defect ∧ defect.message = report ↔ snapshot.Reports defect report := by
  constructor
  · rintro ⟨found, rfl⟩
    unfold defect? at found
    split at found
    case h_1 id isRepeated =>
        obtain rfl := Option.some.inj found
        obtain ⟨earlier, course, later, split, rfl, distinct, again⟩ :=
          repeatedId?_eq_some.mp isRepeated
        exact .repeated split distinct again
    case h_2 unrepeated =>
        obtain ⟨result, isFound, rfl⟩ := Option.map_eq_some_iff.mp found
        obtain ⟨earlier, later, split, fine, bad⟩ := outOfRange?_eq_some.mp isFound
        exact .outOfRange (repeatedId?_eq_none.mp unrepeated) split fine bad
  · intro reports
    cases reports with
    | repeated split distinct again =>
        have isRepeated := repeatedId?_eq_some.mpr ⟨_, _, _, split, rfl, distinct, again⟩
        exact ⟨by rw [defect?, isRepeated], rfl⟩
    | outOfRange distinct split fine bad =>
        have unrepeated := repeatedId?_eq_none.mpr distinct
        have isFound := outOfRange?_eq_some.mpr ⟨_, _, split, fine, bad⟩
        refine ⟨?_, rfl⟩
        rw [defect?, unrepeated]
        dsimp only
        rw [isFound]
        rfl

/-- A snapshot passes its checks exactly when it is valid, and otherwise the first fault is
reported. So accepted texts and files hold valid snapshots, and a text of any other snapshot is
refused with what has to be reported of it. -/
theorem defect?_exact (snapshot : Snapshot) :
    (snapshot.defect? = none ↔ snapshot.Valid) ∧
      (∀ defect report, snapshot.defect? = some defect ∧ defect.message = report ↔
        snapshot.Reports defect report) ∧
      (¬notNumber.IsPercentage ∧ (∀ negative, ¬(infinite negative).IsPercentage) ∧
        (finite true .zero).IsPercentage) ∧
      (∀ text, ofText text = .ok snapshot → snapshot.Valid) ∧
      (∀ file, ofFile file = .ok snapshot → snapshot.Valid) ∧
      ∀ text, Json.decode format.read text = .ok snapshot → ¬snapshot.Valid →
        ∃ defect report, snapshot.Reports defect report ∧
          ofText text = .error (.invalid defect) := by
  have accepted (text : String) (isText : ofText text = .ok snapshot) : snapshot.Valid :=
    defect?_eq_none_iff_valid.mp (ofText_eq_ok.mp isText).2
  refine ⟨defect?_eq_none_iff_valid, fun _ _ => defect?_eq_some, ⟨?_, ?_, ?_⟩, accepted, ?_, ?_⟩
  · rintro ⟨_, _, ⟨⟩, _⟩
  · rintro _ ⟨_, _, ⟨⟩, _⟩
  · exact ⟨true, .zero, rfl, by decide, by decide +kernel⟩
  · intro file isFile
    unfold ofFile at isFile
    split at isFile
    case h_1 => cases isFile
    case h_2 text _ => exact accepted text isFile
  · intro text decoded invalid
    cases found : snapshot.defect? with
    | none => exact absurd (defect?_eq_none_iff_valid.mp found) invalid
    | some defect =>
        refine ⟨defect, defect.message, defect?_eq_some.mp ⟨found, rfl⟩, ?_⟩
        simp only [ofText, decoded, found]

/-- Two ids are repeated in this text, and a score is far out of range. -/
def repetitiveText : String :=
  "[[[\"A\",\"Intro\",\"beginner\"],[\"B\",\"Basics\",\"beginner\"]," ++
    "[\"B\",\"More Basics\",\"beginner\"],[\"A\",\"Outro\",\"advanced\"]],[]," ++
    "[[\"u1\",1e300,\"Rust\"]]]"

def repetitiveSnapshot : Snapshot where
  courses := [.new ⟨"A"⟩ "Intro" .beginner, .new ⟨"B"⟩ "Basics" .beginner,
    .new ⟨"B"⟩ "More Basics" .beginner, .new ⟨"A"⟩ "Outro" .advanced]
  enrollments := []
  challengeResults := [⟨⟨"u1"⟩, .ofNat (Nat.pow 10 300), "Rust"⟩]

/-- Of these scores the first two lie at the ends of the range. -/
def excessiveSnapshot : Snapshot where
  courses := []
  enrollments := []
  challengeResults := [⟨⟨"u1"⟩, .finite true .zero, "Rust"⟩, ⟨⟨"u1"⟩, .ofNat 100, "Go"⟩,
    ⟨⟨"u2"⟩, .ofRatio false 201 2 Nat.two_pos, "Go"⟩, ⟨⟨"u1"⟩, .notNumber, "Rust"⟩]

/-- The first text is refused for the id that is repeated first, and the other snapshot for its
third score. -/
theorem repetitiveText_refused :
    Json.decode format.read repetitiveText = .ok repetitiveSnapshot ∧
      repetitiveSnapshot.Reports (.duplicateCourse ⟨"B"⟩) "duplicate course id: B" ∧
      ofText repetitiveText = .error (.invalid (.duplicateCourse ⟨"B"⟩)) ∧
      excessiveSnapshot.Reports
        (.scoreOutOfRange ⟨⟨"u2"⟩, .ofRatio false 201 2 Nat.two_pos, "Go"⟩)
        "score 100.5 for learner u2 on Go is outside 0-100" := by
  obtain ⟨passes, reports, _, _, _, refuses⟩ := defect?_exact repetitiveSnapshot
  have decoded : Json.decode format.read repetitiveText = .ok repetitiveSnapshot := by
    decide +kernel
  have found : repetitiveSnapshot.defect? = some (.duplicateCourse ⟨"B"⟩) := by decide +kernel
  have invalid : ¬repetitiveSnapshot.Valid := fun valid => by
    rw [passes.mpr valid] at found
    cases found
  obtain ⟨defect, _, reported, refused⟩ := refuses _ decoded invalid
  obtain rfl := Option.some.inj (((reports _ _).mpr reported).1.symm.trans found)
  refine ⟨decoded, (reports _ _).mp ⟨found, rfl⟩, refused, ?_⟩
  exact ((defect?_exact excessiveSnapshot).2.1 _ _).mp ⟨by decide +kernel, by decide +kernel⟩

end Snapshot

end CourseAdvisor
