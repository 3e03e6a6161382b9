/-
This file proves that a snapshot text is read as before when its known level names are written in
another letter case.
-/

import Mathlib.Logic.Relation
import CourseAdvisor.Advisor
import CourseAdvisor.Proofs.Catalog.LevelNames
import CourseAdvisor.Proofs.Json.PartialText
import CourseAdvisor.Proofs.Json.Rewriting
import CourseAdvisor.Proofs.RecordKind

namespace CourseAdvisor

open Json

namespace Level

/-- A trail leads to the level of a course in a snapshot. The courses come first in the list form of
a snapshot and the level comes third in that of a course; otherwise they stand under their keys. -/
def isAt : Trail → Bool
  | [level, .item _, courses] =>
      decide (level ∈ [.item 2, .value (some "level")]) &&
        decide (courses ∈ [.item 0, .value (some "courses")])
  | _ => false

/-- The name of a level is rewritten as that of the level that it is read as. -/
def settled : Rewriting := fun trail name =>
  if isAt trail then (ofString name).toString else name

theorem ofString_settled (trail : Trail) (name : String) :
    ofString (settled trail name) = ofString name := by
  unfold settled
  split
  · exact canonical_ofString name
  · rfl

theorem isAt_eq_true {trail : Trail} (leads : isAt trail = true) :
    ∃ level index courses, trail = [level, .item index, courses] ∧
      level ∈ [Spot.item 2, .value (some "level")] ∧
      courses ∈ [Spot.item 0, .value (some "courses")] := by
  unfold isAt at leads
  split at leads
  case h_1 level index courses =>
      rw [Bool.and_eq_true, decide_eq_true_eq, decide_eq_true_eq] at leads
      exact ⟨level, index, courses, rfl, leads⟩
  case h_2 => cases leads

/-- Nothing is rewritten where no trail inside leads to a level. -/
theorem away_settled {trail : Trail} (elsewhere : ∀ inner, isAt (inner ++ trail) ≠ true) :
    Away settled trail :=
  fun inner _ => if_neg (elsewhere inner)

/-- The other parts of a course have no level inside. -/
theorem away_part {spot : Spot} (index : Nat) (courses : Spot)
    (other : spot ∉ [Spot.item 2, .value (some "level")]) :
    Away settled [spot, .item index, courses] := by
  apply away_settled
  intro inner leads
  obtain ⟨level, _, _, same, isLevel, _⟩ := isAt_eq_true leads
  have empty : inner = [] := by
    have lengths := congrArg List.length same
    simp only [List.length_append, List.length_cons, List.length_nil] at lengths
    apply List.eq_nil_of_length_eq_zero
    omega
  rw [empty] at same
  rw [← (List.cons.inj same).1] at isLevel
  exact other isLevel

/-- The other parts of a snapshot have no level inside. -/
theorem away_rows {spot : Spot} (other : spot ∉ [Spot.item 0, .value (some "courses")]) :
    Away settled [spot] := by
  apply away_settled
  intro inner leads
  obtain ⟨level, index, courses, same, _, isCourses⟩ := isAt_eq_true leads
  have last : (inner ++ [spot]).getLast? = some courses := congrArg List.getLast? same
  rw [List.getLast?_concat] at last
  rw [← Option.some.inj last] at isCourses
  exact other isCourses

/-- No trail to a list or a record leads to a level. -/
theorem silent_short {trail : Trail} (short : trail.length < 3) : Silent settled trail := by
  intro name
  apply if_neg
  intro leads
  obtain ⟨level, index, courses, rfl, _⟩ := isAt_eq_true leads
  exact absurd short (Nat.lt_irrefl 3)

/-- A course is read as before, wherever it stands in the list of courses. -/
theorem course_steady (index : Nat) (courses : Spot) :
    Steady settled [.item index, courses] Course.format.read := by
  have third : Course.format.fields[2]? = some (.required "level" readText fun name course =>
      { course with level := .ofString name }) := rfl
  apply Steady.field RecordKind.course.lawful.distinct third (silent_short (by simp))
  case here =>
      intro spot isLevel
      have notKey : Trail.isKey [spot, .item index, courses] = false := by
        simp only [List.mem_cons, List.not_mem_nil, or_false] at isLevel
        obtain rfl | rfl := isLevel <;> rfl
      show Steady settled _ (readMapped (fun name (course : Course) =>
        { course with level := .ofString name }) readText)
      apply Steady.converted notKey
      intro name
      rw [ofString_settled]
  case elsewhere =>
      intro spot other notKey field isField
      exact (RecordKind.course.composed field isField).steady (away_part index courses other) notKey

/-- A snapshot is read as before. -/
theorem snapshot_steady : Steady settled [] Snapshot.format.read := by
  have first : Snapshot.format.fields[0]? = some (.optional "courses" (readList Course.format.read)
      fun courses snapshot => { snapshot with courses }) := rfl
  apply Steady.field RecordKind.snapshot.lawful.distinct first (silent_short (by simp))
  case here =>
      intro spot _
      show Steady settled _ (readMapped (fun courses (snapshot : Snapshot) =>
        { snapshot with courses }) (readList Course.format.read))
      apply Steady.mapped
      apply Steady.list (silent_short (by simp))
      exact fun index => course_steady index spot
  case elsewhere =>
      intro spot other notKey field isField
      exact (RecordKind.snapshot.composed field isField).steady (away_rows other) notKey

/-- The name of a level stands where a colon or a comma leads to the level of a course. In its place
stands the same known name in another letter case, however it is spelled. -/
inductive Recased : String → String → Prop
  | name {before after spelling otherSpelling : List Char} {tokens : List Token} {last : Token}
      {known : String × Level} {name other : String}
      (scanned : scan before = Tape.push (tokens ++ [last]) .finished)
      (leads : isAt ((tokens ++ [last]).foldl Trail.after []) = true)
      (starts : last ∈ [.colon, .comma]) (isKnown : known ∈ knownNames)
      (variant : IsVariant known.1 name) (otherVariant : IsVariant known.1 other)
      (quotes : Quotes name spelling) (otherQuotes : Quotes other otherSpelling) :
      Recased (String.ofList (before ++ spelling ++ after))
        (String.ofList (before ++ otherSpelling ++ after))

/-- A level is never a key. -/
theorem isKey_of_isAt {trail : Trail} (leads : isAt trail = true) : Trail.isKey trail = false := by
  obtain ⟨level, index, courses, same, isLevel, _⟩ := isAt_eq_true leads
  rw [same]
  simp only [List.mem_cons, List.not_mem_nil, or_false] at isLevel
  obtain rfl | rfl := isLevel <;> rfl

/-- At a level, a known name in any letter case is rewritten to that name. -/
theorem rewritten_variant {trail : Trail} (leads : isAt trail = true)
    {known : String × Level} (isKnown : known ∈ knownNames) {name : String}
    (variant : IsVariant known.1 name) (rest : Tape) :
    (Tape.token (.text (some name)) rest).rewritten settled trail =
      .token (.text (some known.2.toString)) (rest.rewritten settled trail) := by
  have notKey := isKey_of_isAt leads
  have name_eq : settled trail name = known.2.toString := by
    rw [settled, if_pos leads, ofString_known isKnown variant]
  rw [Tape.rewritten, Trail.after_scalar notKey rfl, Token.rewritten, notKey, name_eq]
  rfl

/-- Another letter case of a name is rewritten to the same name. -/
theorem Recased.rewritten {text other : String} (recased : Recased text other) :
    (scan text.toList).rewritten settled [] = (scan other.toList).rewritten settled [] := by
  obtain @⟨before, after, spelling, otherSpelling, tokens, last, known, name, other, scanned,
    leads, starts, isKnown, variant, otherVariant, quotes, otherQuotes⟩ := recased
  have notNumber (numeral : Numeral) : last ≠ .number numeral := by
    intro same
    simp [same] at starts
  have tape {name : String} {spelling : List Char} (quotes : Quotes name spelling) :
      scan (before ++ spelling ++ after) =
        Tape.push (tokens ++ [last]) (.token (.text (some name)) (scan after)) := by
    rw [List.append_assoc, scan_append _ scanned notNumber, scan_token (quotes.scanned after)]
  rw [String.toList_ofList, String.toList_ofList, tape quotes, tape otherQuotes]
  apply Tape.rewritten_push
  rw [rewritten_variant leads isKnown variant, rewritten_variant leads isKnown otherVariant]

/-- A text with another letter case of a name is read as the same snapshot, or refused alike. -/
theorem Recased.ofText_eq {text other : String} (recased : Recased text other) :
    Snapshot.ofText other = Snapshot.ofText text := by
  have decoded := snapshot_steady.decode_congr recased.rewritten
  rw [Snapshot.ofText, Snapshot.ofText, decoded]

/-- Every name is read as the level that it names in any letter case, and kept when it names none.
Snapshot texts that differ in the letter case of known names alone are accepted or refused alike
and bring the same advice. -/
theorem letterCase_ignored :
    (∀ name, NamedBy name (ofString name)) ∧
      ∀ text other, Relation.ReflTransGen Recased text other →
        Snapshot.ofText other = Snapshot.ofText text ∧
        ∀ snapshot, Snapshot.ofText text = .ok snapshot →
          ∃ same, Snapshot.ofText other = .ok same ∧ ∀ thresholds learner,
            (Advisor.mk same.store (.standard thresholds)).recommend learner =
              (Advisor.mk snapshot.store (.standard thresholds)).recommend learner := by
  constructor
  · exact ofString_namedBy
  · intro text other recased
    have alike : Snapshot.ofText other = Snapshot.ofText text := by
      induction recased with
      | refl => rfl
      | tail _ last ih => exact last.ofText_eq.trans ih
    apply And.intro alike
    intro snapshot accepted
    exact ⟨snapshot, alike.trans accepted, fun _ _ => rfl⟩

/-- This text names the level of one course under its key and that of another at its position. -/
def loudText : String :=
  "\x7b\"courses\":[\x7b\"id\":\"a\",\"title\":\"A\",\"level\":\"BEGINNER\"\x7d," ++
    "[\"b\",\"B\",\"aDVANCED\"]]\x7d"

/-- This text has the same names in small letters. -/
def quietText : String :=
  "\x7b\"courses\":[\x7b\"id\":\"a\",\"title\":\"A\",\"level\":\"beginner\"\x7d," ++
    "[\"b\",\"B\",\"advanced\"]]\x7d"

/-- The tokens up to the first level. -/
def firstTokens : List Token :=
  [.openObject, .text (some "courses"), .colon, .openList, .openObject, .text (some "id"), .colon,
    .text (some "a"), .comma, .text (some "title"), .colon, .text (some "A"), .comma,
    .text (some "level")]

theorem loudText_recased : Relation.ReflTransGen Recased loudText quietText := by
  have first : Recased loudText
      ("\x7b\"courses\":[\x7b\"id\":\"a\",\"title\":\"A\",\"level\":\"beginner\"\x7d," ++
        "[\"b\",\"B\",\"aDVANCED\"]]\x7d") :=
    @Recased.name "\x7b\"courses\":[\x7b\"id\":\"a\",\"title\":\"A\",\"level\":".toList
      "\x7d,[\"b\",\"B\",\"aDVANCED\"]]\x7d".toList _ _ firstTokens .colon
      ("beginner", .beginner) "BEGINNER" "beginner" (by decide +kernel) (by decide) (by decide)
      (by decide) (by decide) (by decide) (.plain (by decide)) (.plain (by decide))
  have second : Recased
      ("\x7b\"courses\":[\x7b\"id\":\"a\",\"title\":\"A\",\"level\":\"beginner\"\x7d," ++
        "[\"b\",\"B\",\"aDVANCED\"]]\x7d") quietText :=
    @Recased.name ("\x7b\"courses\":[\x7b\"id\":\"a\",\"title\":\"A\",\"level\":" ++
        "\"beginner\"\x7d,[\"b\",\"B\",").toList
      "]]\x7d".toList _ _
      (firstTokens ++ [.colon, .text (some "beginner"), .closeObject, .comma, .openList,
        .text (some "b"), .comma, .text (some "B")]) .comma
      ("advanced", .advanced) "aDVANCED" "advanced" (by decide +kernel) (by decide) (by decide)
      (by decide) (by decide) (by decide) (.plain (by decide)) (.plain (by decide))
  exact .tail (.single first) second

/-- Both texts are read as the same snapshot of two courses. -/
theorem letterCase_ignored_loudText :
    Relation.ReflTransGen Recased loudText quietText ∧
      Snapshot.ofText quietText = Snapshot.ofText loudText ∧
      Snapshot.ofText loudText =
        .ok ⟨[.new ⟨"a"⟩ "A" .beginner, .new ⟨"b"⟩ "B" .advanced], [], []⟩ ∧
      ∃ same, Snapshot.ofText quietText = .ok same ∧ ∀ thresholds learner,
        (Advisor.mk same.store (.standard thresholds)).recommend learner =
          (Advisor.mk (Snapshot.store
            ⟨[.new ⟨"a"⟩ "A" .beginner, .new ⟨"b"⟩ "B" .advanced], [], []⟩)
            (.standard thresholds)).recommend learner := by
  have accepted : Snapshot.ofText loudText =
      .ok ⟨[.new ⟨"a"⟩ "A" .beginner, .new ⟨"b"⟩ "B" .advanced], [], []⟩ := by
    decide +kernel
  obtain ⟨alike, advice⟩ := letterCase_ignored.2 loudText quietText loudText_recased
  exact ⟨loudText_recased, alike, accepted, advice _ accepted⟩

end Level

end CourseAdvisor
