/-
This file proves how each kind of record is decoded from an object text.
-/

import CourseAdvisor.Proofs.Json.Filling
import CourseAdvisor.Recommendation.Response
import CourseAdvisor.Snapshot.Basic
import CourseAdvisor.Thresholds

namespace CourseAdvisor

open Json RecordFormat FirstOccurrences

/-- These are the records that are read from JSON. -/
inductive RecordKind where
  | course
  | enrollment
  | challengeResult
  | recommendation
  | response
  | thresholds
  | snapshot
  deriving DecidableEq

namespace RecordKind

abbrev Record : RecordKind → Type
  | course => Course
  | enrollment => Enrollment
  | challengeResult => ChallengeResult
  | recommendation => Recommendation
  | response => Response
  | thresholds => Thresholds
  | snapshot => Snapshot

def format : (kind : RecordKind) → RecordFormat kind.Record
  | course => Course.format
  | enrollment => Enrollment.format
  | challengeResult => ChallengeResult.format
  | recommendation => Recommendation.format
  | response => Response.format
  | thresholds => Thresholds.format
  | snapshot => Snapshot.format

/-- These are the keys of the fields without a default, in order. -/
def required : RecordKind → List String
  | course => ["id", "title", "level"]
  | enrollment => ["studentId", "courseId"]
  | challengeResult => ["userId", "score", "skill"]
  | recommendation => ["courseId", "title", "reason"]
  | response => ["status", "recommendations"]
  | thresholds => []
  | snapshot => []

/-- These are the keys of the fields with a default. -/
def optional : RecordKind → List String
  | course => ["prerequisite", "isPublished", "isRemedial", "skill"]
  | enrollment => ["completed"]
  | challengeResult => []
  | recommendation => []
  | response => []
  | thresholds => ["weak_score_threshold", "beginner_ratio_threshold"]
  | snapshot => ["courses", "enrollments", "challengeResults"]

/-- These are the known members of an object text, in order: their keys and the lexemes of their
values. -/
def given (kind : RecordKind) (object : ObjectText) : List (String × List (List Char)) :=
  (object.members.filter fun member => decide (member.key ∈ kind.required ++ kind.optional)).map
    fun member => (member.key, member.lexemes)

def knownKeys (kind : RecordKind) (object : ObjectText) : List String :=
  (kind.given object).map Prod.fst

/-- This is the record of the given values and of the defaults for the others. A value without a
default is always given where a record is decoded. -/
def described (kind : RecordKind) (object : ObjectText) : kind.Record :=
  match kind with
  | course => {
      id := ⟨(object.value? "id" readText).getD ""⟩
      title := (object.value? "title" readText).getD ""
      level := .ofString ((object.value? "level" readText).getD "")
      prerequisite :=
        ((object.value? "prerequisite" (readOptional readText)).getD none).map CourseId.mk
      isPublished := (object.value? "isPublished" readBoolean).getD true
      isRemedial := (object.value? "isRemedial" readBoolean).getD false
      skill := (object.value? "skill" (readOptional readText)).getD none : Course }
  | enrollment => {
      studentId := ⟨(object.value? "studentId" readText).getD ""⟩
      courseId := ⟨(object.value? "courseId" readText).getD ""⟩
      completed := (object.value? "completed" readBoolean).getD false : Enrollment }
  | challengeResult => {
      userId := ⟨(object.value? "userId" readText).getD ""⟩
      score := (object.value? "score" readNumber).getD .zero
      skill := (object.value? "skill" readText).getD "" : ChallengeResult }
  | recommendation => {
      courseId := ⟨(object.value? "courseId" readText).getD ""⟩
      title := (object.value? "title" readText).getD ""
      reason := (object.value? "reason" readText).getD "" : Recommendation }
  | response => {
      status := (object.value? "status" readText).getD ""
      recommendations :=
        (object.value? "recommendations" (readList Recommendation.format.read)).getD [] : Response }
  | thresholds => {
      weakScore := (object.value? "weak_score_threshold" readNumber).getD
        Thresholds.standard.weakScore
      beginnerRatio := (object.value? "beginner_ratio_threshold" readNumber).getD
        Thresholds.standard.beginnerRatio : Thresholds }
  | snapshot => {
      courses := (object.value? "courses" (readList Course.format.read)).getD []
      enrollments := (object.value? "enrollments" (readList Enrollment.format.read)).getD []
      challengeResults :=
        (object.value? "challengeResults" (readList ChallengeResult.format.read)).getD [] :
        Snapshot }

/-- The fields of every record are composed; those of a snapshot hold lists of records. -/
theorem composed (kind : RecordKind) : ∀ field ∈ kind.format.fields, Composed field.read := by
  have course : ∀ field ∈ Course.format.fields, Composed field.read := by
    simp only [Course.format, Field.required, Field.optional, List.forall_mem_cons]
    exact ⟨.mapped .text, .mapped .text, .mapped .text, .mapped (.optional .text),
      .mapped .boolean, .mapped .boolean, .mapped (.optional .text), by simp⟩
  have enrollment : ∀ field ∈ Enrollment.format.fields, Composed field.read := by
    simp only [Enrollment.format, Field.required, Field.optional, List.forall_mem_cons]
    exact ⟨.mapped .text, .mapped .text, .mapped .boolean, by simp⟩
  have challengeResult : ∀ field ∈ ChallengeResult.format.fields, Composed field.read := by
    simp only [ChallengeResult.format, Field.required, List.forall_mem_cons]
    exact ⟨.mapped .text, .mapped .number, .mapped .text, by simp⟩
  have recommendation : ∀ field ∈ Recommendation.format.fields, Composed field.read := by
    simp only [Recommendation.format, Field.required, List.forall_mem_cons]
    exact ⟨.mapped .text, .mapped .text, .mapped .text, by simp⟩
  cases kind with
  | course => exact course
  | enrollment => exact enrollment
  | challengeResult => exact challengeResult
  | recommendation => exact recommendation
  | response =>
      simp only [format, Response.format, Field.required, List.forall_mem_cons]
      exact ⟨.mapped .text, .mapped (.list (.record recommendation)), by simp⟩
  | thresholds =>
      simp only [format, Thresholds.format, Field.optional, List.forall_mem_cons]
      exact ⟨.mapped .number, .mapped .number, by simp⟩
  | snapshot =>
      simp only [format, Snapshot.format, Field.optional, List.forall_mem_cons]
      exact ⟨.mapped (.list (.record course)), .mapped (.list (.record enrollment)),
        .mapped (.list (.record challengeResult)), by simp⟩

theorem areLocal (kind : RecordKind) : ∀ field ∈ kind.format.fields, Local field.read :=
  fun field member => (kind.composed field member).isLocal

/-- The fields of every record set different parts of it. -/
theorem independent (kind : RecordKind) : kind.format.fields.Pairwise Field.Independent := by
  cases kind
  all_goals
    simp only [format, Course.format, Enrollment.format, ChallengeResult.format,
      Recommendation.format, Response.format, Thresholds.format, Snapshot.format, Field.required,
      Field.optional, List.pairwise_cons, List.forall_mem_cons]
    and_intros
  all_goals first | exact Field.independent_mapped fun _ _ _ => rfl | simp

theorem lawful (kind : RecordKind) : kind.format.Lawful where
  distinct := by cases kind <;> decide
  areLocal := kind.areLocal
  independent := kind.independent

/-- The keys of the fields are the required ones and then the optional ones. -/
theorem keys_fields (kind : RecordKind) :
    kind.format.fields.map (·.key) = kind.required ++ kind.optional := by
  cases kind <;> rfl

theorem keys_required (kind : RecordKind) :
    (kind.format.fields.filter (!·.hasDefault)).map (·.key) = kind.required := by
  cases kind <;> rfl

/-- The defaults of a record are those of its blank form. -/
theorem filled_eq (kind : RecordKind) (object : ObjectText) :
    kind.format.filled object = kind.described object := by
  cases kind
  all_goals
    simp only [filled, format, Course.format, Enrollment.format, ChallengeResult.format,
      Recommendation.format, Response.format, Thresholds.format, Snapshot.format, Field.required,
      Field.optional, List.foldl_cons, List.foldl_nil]
  case course =>
    rw [fill_default "" "id", fill_default "" "title", fill_default "" "level",
      fill_default none "prerequisite", fill_default true "isPublished",
      fill_default false "isRemedial", fill_default none "skill"] <;> rfl
  case enrollment =>
    rw [fill_default "" "studentId", fill_default "" "courseId",
      fill_default false "completed"] <;> rfl
  case challengeResult =>
    rw [fill_default "" "userId", fill_default .zero "score", fill_default "" "skill"] <;> rfl
  case recommendation =>
    rw [fill_default "" "courseId", fill_default "" "title", fill_default "" "reason"] <;> rfl
  case response => rw [fill_default "" "status", fill_default [] "recommendations"] <;> rfl
  case thresholds =>
    simp only [described]
    -- The defaults stay folded; comparing the records would compute them.
    generalize Thresholds.standard = standard
    rw [fill_default standard.weakScore "weak_score_threshold",
      fill_default standard.beginnerRatio "beginner_ratio_threshold"] <;> rfl
  case snapshot =>
    rw [fill_default [] "courses", fill_default [] "enrollments",
      fill_default [] "challengeResults"] <;> rfl

theorem given_eq (kind : RecordKind) (object : ObjectText) :
    kind.format.given object = kind.given object := by
  have known (key : String) :
      kind.format.isKnown key = decide (key ∈ kind.required ++ kind.optional) := by
    rw [← kind.keys_fields, Bool.eq_iff_iff, isKnown_iff, decide_eq_true_eq]
  simp only [RecordFormat.given, given, known]

theorem givenKeys_eq (kind : RecordKind) (object : ObjectText) :
    kind.format.givenKeys object = kind.knownKeys object := by
  rw [← given_keys, given_eq, knownKeys]

/-- The first missing field has the first required key that is missing. -/
theorem missing?_eq (kind : RecordKind) (seen : List String) :
    (kind.format.missing? seen).map (·.key) =
      kind.required.find? fun key => decide (key ∉ seen) := by
  rw [← kind.keys_required, List.find?_map, List.find?_filter, missing?]
  simp

/-- This is what an object text is decoded to, in terms of its known members. -/
theorem decode_eq {kind : RecordKind} {object : ObjectText} (accepts : kind.format.Accepts object) :
    decode kind.format.read object.text =
      match repeated? [] (kind.knownKeys object) with
      | some key => .error (.misfit (.duplicateField key))
      | none =>
          match kind.required.find? fun key => decide (key ∉ kind.knownKeys object) with
          | some key => .error (.misfit (.missingField key))
          | none => .ok (kind.described object) := by
  rw [decode_objectText kind.lawful accepts, givenKeys_eq, ← missing?_eq, filled_eq]
  cases repeated? [] (kind.knownKeys object) with
  | some key => rfl
  | none => cases kind.format.missing? (kind.knownKeys object) <;> rfl

/-- An object text settles as this outcome: a known key that comes again or the first required key
that is absent is reported, and otherwise the described record is the result. -/
structure Settles (kind : RecordKind) (object : ObjectText)
    (outcome : Except ReadError kind.Record) : Prop where
  succeeds : (∃ record, outcome = .ok record) ↔
    (kind.knownKeys object).Nodup ∧ ∀ key ∈ kind.required, key ∈ kind.knownKeys object
  result : ∀ record, outcome = .ok record → record = kind.described object
  repeated : ∀ earlier key later, kind.knownKeys object = earlier ++ key :: later →
    earlier.Nodup → key ∈ earlier → outcome = .error (.misfit (.duplicateField key))
  missing : (kind.knownKeys object).Nodup → ∀ earlier key later,
    kind.required = earlier ++ key :: later → (∀ other ∈ earlier, other ∈ kind.knownKeys object) →
      key ∉ kind.knownKeys object → outcome = .error (.misfit (.missingField key))

theorem settles {kind : RecordKind} {object : ObjectText} (accepts : kind.format.Accepts object) :
    kind.Settles object (decode kind.format.read object.text) := by
  have decoded := decode_eq accepts
  have unrepeated (distinct : (kind.knownKeys object).Nodup) :
      repeated? [] (kind.knownKeys object) = none := repeated?_eq_none.mpr ⟨distinct, by simp⟩
  refine ⟨⟨?succeeds, ?fails⟩, ?result, ?repeated, ?missing⟩
  case succeeds =>
      rintro ⟨record, success⟩
      rw [decoded] at success
      split at success
      case h_1 => cases success
      case h_2 distinct =>
          split at success
          case h_1 => cases success
          case h_2 complete =>
              refine ⟨(repeated?_eq_none.mp distinct).1, fun key isRequired => ?_⟩
              simpa using List.find?_eq_none.mp complete key isRequired
  case fails =>
      rintro ⟨distinct, complete⟩
      have nothing : kind.required.find? (fun key => decide (key ∉ kind.knownKeys object)) = none :=
        List.find?_eq_none.mpr fun key isRequired => by simpa using complete key isRequired
      refine ⟨kind.described object, ?_⟩
      rw [decoded, unrepeated distinct, nothing]
  case result =>
      intro record success
      rw [decoded] at success
      split at success
      case h_1 => cases success
      case h_2 =>
          split at success
          case h_1 => cases success
          case h_2 => exact (Except.ok.inj success).symm
  case repeated =>
      intro earlier key later split distinct again
      rw [decoded, split, repeated?_split distinct again]
  case missing =>
      intro distinct earlier key later split given absent
      have first : kind.required.find? (fun key => decide (key ∉ kind.knownKeys object)) =
          some key := by
        rw [List.find?_eq_some_iff_append]
        refine ⟨by simpa using absent, earlier, later, split, fun other member => ?_⟩
        simpa using given other member
      rw [decoded, unrepeated distinct, first]

/-- Every object text with acceptable values settles as what it is decoded to. That depends on
nothing but its known members, and not on their order. -/
theorem decode_settles (kind : RecordKind) (object : ObjectText)
    (accepts : kind.format.Accepts object) :
    kind.Settles object (decode kind.format.read object.text) ∧
      ∀ other, (kind.given other).Perm (kind.given object) → (kind.knownKeys object).Nodup →
        decode kind.format.read other.text = decode kind.format.read object.text := by
  refine ⟨settles accepts, fun other same distinct => ?_⟩
  rw [← given_eq, ← given_eq] at same
  rw [← givenKeys_eq] at distinct
  exact decode_perm kind.lawful accepts same distinct

/-- These are the lexemes of a list with a number beyond the largest double and an empty object. -/
def oddLexemes : List (List Char) :=
  enclosedLexemes '[' [["1e400".toList], enclosedLexemes '\x7b' [] '\x7d'] ']'

theorem odd_isValue : IsValue oddLexemes "[1e400 , \x7b\n\x7d]".toList := by
  have huge : IsNumber "1e400".toList :=
    @IsNumber.parts [] ['1'] [] "e400".toList (by simp) ⟨⟨by simp, by simp⟩, by simp⟩ .absent
      (@IsExponent.marked 'e' [] "400".toList (by simp) (by simp) ⟨by simp, by simp⟩)
  have empty : IsValue (enclosedLexemes '\x7b' [] '\x7d') "\x7b\n\x7d".toList :=
    @IsValue.object ['\n'] [] (by decide) (by simp) (by simp)
  refine @IsValue.list [] [(⟨[], "1e400".toList, [' '], .nil, by decide⟩, ["1e400".toList]),
    (⟨[' '], "\x7b\n\x7d".toList, [], by decide, .nil⟩, enclosedLexemes '\x7b' [] '\x7d')]
    .nil ?_
  rw [List.forall_mem_cons, List.forall_mem_singleton]
  exact ⟨.number huge, empty⟩

/-- One letter of this key is escaped. -/
theorem escaped_quotes : Quotes "title" "\"titl\\u0065\"".toList := by
  have unit : IsUnit 'e'.toNat "\\u0065".toList :=
    @IsUnit.digits '0' '0' '6' '5' 0 0 6 5 ⟨by decide, .inl rfl⟩ ⟨by decide, .inl rfl⟩
      ⟨by decide, .inl rfl⟩ ⟨by decide, .inl rfl⟩
  have letters : List.Forall₂ Spells "titl".toList [['t'], ['i'], ['t'], ['l']] :=
    .cons (.plain (by decide)) <| .cons (.plain (by decide)) <|
      .cons (.plain (by decide)) <| .cons (.plain (by decide)) .nil
  exact @Quotes.spelled "title" _ (List.rel_append letters (.cons (.unit unit) .nil))

/-- This text has blanks, an escaped key and an unknown key that comes twice. -/
def scrambledCourse : ObjectText where
  before := [' ']
  blanks := ['\t']
  members := [
    { key := "extra"
      entry := ⟨.bare "\"extra\"".toList,
        ⟨[' '], "[1e400 , \x7b\n\x7d]".toList, [], by decide, .nil⟩⟩
      lexemes := oddLexemes
      quotes := @Quotes.plain "extra" (by decide)
      isValue := odd_isValue },
    { key := "title"
      entry := ⟨⟨['\n'], "\"titl\\u0065\"".toList, [' '], by decide, by decide⟩,
        .bare "\"Intro\"".toList⟩
      lexemes := ["\"Intro\"".toList]
      quotes := escaped_quotes
      isValue := .quoted (@IsQuoted.plain "Intro".toList (by decide)) },
    .plain "level" "BEGINNER" (by decide) (by decide),
    { key := "extra"
      entry := ⟨.bare "\"extra\"".toList, ⟨[' '], "null".toList, [], by decide, .nil⟩⟩
      lexemes := ["null".toList]
      quotes := @Quotes.plain "extra" (by decide)
      isValue := .null },
    .plain "id" "A" (by decide) (by decide)]
  after := ['\n']
  blankBefore := by decide
  blankInside := by decide
  blankAfter := by decide

/-- This text has the same known members in the order of the fields, without any blanks. -/
def orderlyCourse : ObjectText where
  before := []
  blanks := []
  members := [.plain "id" "A" (by decide) (by decide),
    .plain "title" "Intro" (by decide) (by decide),
    .plain "level" "BEGINNER" (by decide) (by decide)]
  after := []
  blankBefore := .nil
  blankInside := .nil
  blankAfter := .nil

/-- Both texts are decoded to the same course with the defaults of a new one. -/
theorem scrambledCourse_decoded :
    scrambledCourse.text = " \x7b\t\"extra\": [1e400 , \x7b\n\x7d],\n\"titl\\u0065\" :" ++
      "\"Intro\",\"level\":\"BEGINNER\",\"extra\": null,\"id\":\"A\"\x7d\n" ∧
    orderlyCourse.text =
      "\x7b\"id\":\"A\",\"title\":\"Intro\",\"level\":\"BEGINNER\"\x7d" ∧
    course.format.Accepts scrambledCourse ∧
    decode Course.format.read scrambledCourse.text = .ok (.new ⟨"A"⟩ "Intro" .beginner) ∧
    decode Course.format.read orderlyCourse.text = .ok (.new ⟨"A"⟩ "Intro" .beginner) := by
  have accepts : course.format.Accepts scrambledCourse := by decide +kernel
  obtain ⟨settles, independent⟩ := decode_settles course scrambledCourse accepts
  obtain ⟨record, success⟩ := settles.succeeds.mpr (by decide +kernel)
  have described : record = .new ⟨"A"⟩ "Intro" .beginner :=
    (settles.result record success).trans (by decide +kernel)
  have decoded : decode Course.format.read scrambledCourse.text =
      .ok (.new ⟨"A"⟩ "Intro" .beginner) := described ▸ success
  have same := independent orderlyCourse (by decide +kernel) (by decide +kernel)
  exact ⟨by decide +kernel, by decide +kernel, accepts, decoded, same.trans decoded⟩

end RecordKind

end CourseAdvisor
