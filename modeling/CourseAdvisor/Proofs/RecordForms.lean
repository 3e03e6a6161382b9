/-
This file proves that records of every kind are decoded alike in their list form and in their object
form, alone and in the lists of a snapshot.
-/

import CourseAdvisor.Proofs.Json.Forms
import CourseAdvisor.Proofs.RecordKind

namespace CourseAdvisor

open Json RecordFormat

/-- A loop stops with the error of one of its steps. -/
theorem mapM_eq_error {α β ε : Type} {step : α → Except ε β} {items : List α} {error : ε}
    (failed : items.mapM step = .error error) : ∃ item ∈ items, step item = .error error := by
  induction items with
  | nil => cases failed
  | cons item items ih =>
      rw [List.mapM_cons] at failed
      cases first : step item with
      | error fault =>
          rw [first] at failed
          cases failed
          exact ⟨item, List.mem_cons_self, first⟩
      | ok value =>
          rw [first] at failed
          cases others : items.mapM step with
          | error fault =>
              rw [others] at failed
              cases failed
              obtain ⟨other, isOther, stopped⟩ := ih others
              exact ⟨other, List.mem_cons_of_mem item isOther, stopped⟩
          | ok values =>
              rw [others] at failed
              cases failed

theorem RecordKind.isComposed (kind : RecordKind) : Composed kind.format.read :=
  .record kind.composed

namespace Snapshot

/-- These are the texts of the records in one list of a snapshot. A list that is not written has
none. -/
def recordsAt (rows : List ListText) (index : Nat) : List String :=
  ((rows[index]?).map ListText.values).getD []

/-- A snapshot of these lists comes out when each record in them is decoded as it is alone, and it
fails as one of the records does. -/
structure Holds (rows : List ListText) (outcome : Except ReadError Snapshot) : Prop where
  succeeds : ∀ snapshot, outcome = .ok snapshot ↔
    (recordsAt rows 0).mapM (decode Course.format.read) = .ok snapshot.courses ∧
    (recordsAt rows 1).mapM (decode Enrollment.format.read) = .ok snapshot.enrollments ∧
    (recordsAt rows 2).mapM (decode ChallengeResult.format.read) = .ok snapshot.challengeResults
  fails : ∀ error, outcome = .error error →
    (∃ text ∈ recordsAt rows 0, decode Course.format.read text = .error error) ∨
    (∃ text ∈ recordsAt rows 1, decode Enrollment.format.read text = .error error) ∨
    ∃ text ∈ recordsAt rows 2, decode ChallengeResult.format.read text = .error error

theorem recordsAt_tail (rows : List ListText) (index : Nat) :
    recordsAt rows.tail index = recordsAt rows (index + 1) := by
  cases rows <;> rfl

/-- A list of records is decoded record by record. -/
theorem ofItem_rows {α β : Type} {reader : Reader β} (composed : Composed reader)
    {item : ItemText} {row : ListText} (same : item.value = row.text) (key : String)
    (hasDefault : Bool) (set : List β → α → α) :
    Json.Field.ofItem ⟨key, hasDefault, readMapped set (readList reader)⟩ item =
      (row.values.mapM (decode reader)).map set := by
  rw [Field.ofItem, decode_mapped, same, row.decode_values composed]

/-- The first list is placed record by record, and a list that is not written is empty. -/
theorem placed_row {α β : Type} {format : RecordFormat α} {reader : Reader β}
    (composed : Composed reader) {set : List β → α → α} {record : α}
    (unwritten : set [] record = record) {fields : List (Json.Field α)}
    (defaults : fields.all (·.hasDefault) = true) {items : List ItemText} {rows : List ListText}
    (same : items.map ItemText.value = rows.map ListText.text) (key : String) (count : Nat) :
    format.placed Field.ofItem count record (.optional key (readList reader) set :: fields) items =
      (recordsAt rows 0).mapM (decode reader) >>= fun values =>
        format.placed Field.ofItem (count + 1) (set values record) fields items.tail := by
  cases items with
  | nil =>
      obtain rfl := List.map_eq_nil_iff.mp same.symm
      show _ = format.placed Field.ofItem (count + 1) (set [] record) fields []
      rw [unwritten, placed, placed, if_pos defaults]
      exact if_pos defaults
  | cons item items =>
      obtain ⟨row, others, rfl, sameFirst, _⟩ := List.map_eq_cons_iff.mp same.symm
      rw [placed, Field.optional, ofItem_rows composed sameFirst.symm]
      show _ = row.values.mapM (decode reader) >>= _
      cases row.values.mapM (decode reader) <;> rfl

variable {list : ListText} {rows : List ListText} (same : list.values = rows.map ListText.text)

include same

/-- The list form of a snapshot is decoded list by list. -/
theorem decode_rows (few : rows.length ≤ 3) :
    decode format.read list.text = do
      let courses ← (recordsAt rows 0).mapM (decode Course.format.read)
      let enrollments ← (recordsAt rows 1).mapM (decode Enrollment.format.read)
      let challengeResults ← (recordsAt rows 2).mapM (decode ChallengeResult.format.read)
      return ⟨courses, enrollments, challengeResults⟩ := by
  have placed : decode format.read list.text =
      format.placed Field.ofItem 0 empty format.fields list.items :=
    decode_placed RecordKind.snapshot.composed list
  have later {items : List ItemText} {rows : List ListText}
      (same : items.map ItemText.value = rows.map ListText.text) :
      items.tail.map ItemText.value = rows.tail.map ListText.text := by
    rw [List.map_tail, List.map_tail, same]
  have nothing : list.items.tail.tail.tail = [] := by
    have lengths := congrArg List.length same
    rw [ListText.values, List.length_map, List.length_map] at lengths
    apply List.eq_nil_of_length_eq_zero
    simp only [List.length_tail]
    omega
  have course : Composed Course.format.read := RecordKind.course.isComposed
  have enrollment : Composed Enrollment.format.read := RecordKind.enrollment.isComposed
  have result : Composed ChallengeResult.format.read := RecordKind.challengeResult.isComposed
  rw [placed, format, placed_row course rfl rfl same]
  apply bind_congr
  intro courses
  rw [placed_row enrollment rfl rfl (later same), recordsAt_tail]
  apply bind_congr
  intro enrollments
  rw [placed_row result rfl rfl (later (later same)), recordsAt_tail, recordsAt_tail, nothing]
  rfl

/-- A value that does not fit has a record that is refused. -/
theorem refused_rows {pair : Json.Field Snapshot × ItemText}
    (isPair : pair ∈ format.fields.zip list.items) {error : ReadError}
    (failed : pair.1.ofItem pair.2 = .error error) :
    (∃ text ∈ recordsAt rows 0, decode Course.format.read text = .error error) ∨
    (∃ text ∈ recordsAt rows 1, decode Enrollment.format.read text = .error error) ∨
    ∃ text ∈ recordsAt rows 2, decode ChallengeResult.format.read text = .error error := by
  obtain ⟨index, found⟩ := List.mem_iff_getElem?.mp isPair
  obtain ⟨isField, isItem⟩ := List.getElem?_zip_eq_some.mp found
  obtain ⟨row, isRow, sameText⟩ : ∃ row, rows[index]? = some row ∧ row.text = pair.2.value := by
    have isValue : list.values[index]? = some pair.2.value := by
      rw [ListText.values, List.getElem?_map, isItem]
      rfl
    rwa [same, List.getElem?_map, Option.map_eq_some_iff] at isValue
  have records : recordsAt rows index = row.values := by
    rw [recordsAt, isRow]
    rfl
  have stops {β : Type} {reader : Reader β} (composed : Composed reader) {key : String}
      {set : List β → Snapshot → Snapshot} (isOptional : pair.1 = .optional key (readList reader) set) :
      ∃ text ∈ recordsAt rows index, decode reader text = .error error := by
    rw [isOptional, Field.optional, ofItem_rows composed sameText.symm] at failed
    rw [records]
    apply mapM_eq_error
    cases listed : row.values.mapM (decode reader) with
    | error fault =>
        rw [listed] at failed
        cases failed
        rfl
    | ok values =>
        rw [listed] at failed
        cases failed
  obtain _ | _ | _ | index := index
  · exact .inl (stops RecordKind.course.isComposed (Option.some.inj isField).symm)
  · exact .inr (.inl (stops RecordKind.enrollment.isComposed (Option.some.inj isField).symm))
  · exact .inr (.inr (stops RecordKind.challengeResult.isComposed (Option.some.inj isField).symm))
  · cases isField

/-- In either form, a snapshot of lists comes out with the records that are decoded alone. -/
theorem holds_rows (few : rows.length ≤ 3) {text : String} (writes : format.Writes list text) :
    Holds rows (decode format.read text) := by
  have lawful : format.Lawful := RecordKind.snapshot.lawful
  have composed : ∀ field ∈ format.fields, Composed field.read := RecordKind.snapshot.composed
  have decoded := decode_rows same few
  by_cases fits : format.Fits list
  case pos =>
      have lengths := congrArg List.length same
      rw [ListText.values, List.length_map, List.length_map] at lengths
      have defaults : ∀ field ∈ format.fields, field.hasDefault = true := by
        simp [format, Field.optional]
      obtain ⟨record, alike⟩ := fits.decode_complete lawful composed (lengths.trans_le few)
        fun field isLeft => defaults field (List.mem_of_mem_drop isLeft)
      -- The record of either form is that of the list form, which is known list by list.
      rw [alike list.text .list] at decoded
      obtain ⟨courses, first, others⟩ := bind_eq_ok decoded.symm
      obtain ⟨enrollments, second, last⟩ := bind_eq_ok others
      obtain ⟨results, third, made⟩ := bind_eq_ok last
      cases made
      rw [alike text writes]
      constructor
      case succeeds =>
          intro snapshot
          rw [first, second, third]
          constructor
          · intro isSnapshot
            cases isSnapshot
            exact ⟨rfl, rfl, rfl⟩
          · intro decodedAlone
            obtain ⟨isFirst, isSecond, isThird⟩ := decodedAlone
            rw [Except.ok.inj isFirst, Except.ok.inj isSecond, Except.ok.inj isThird]
      case fails =>
          intro error failed
          cases failed
  case neg =>
      -- The list form stops as well, so some list has a record that is refused.
      obtain ⟨_, _, fault, _, stoppedList⟩ := Writes.list.refused lawful composed fits
      obtain ⟨pair, isPair, error, failed, stopped⟩ := writes.refused lawful composed fits
      rw [stopped]
      constructor
      case succeeds =>
          intro snapshot
          constructor
          · intro succeeded
            cases succeeded
          · intro decodedAlone
            obtain ⟨first, second, third⟩ := decodedAlone
            rw [first, second, third, stoppedList] at decoded
            cases decoded
      case fails =>
          intro other isError
          cases isError
          exact refused_rows same isPair failed

end Snapshot

namespace RecordKind

/-- What comes of a list with acceptable values depends on its length. When the fields without an
item have defaults, all texts that write the values are decoded to the same record. -/
structure Lengths (kind : RecordKind) (list : ListText) : Prop where
  complete : list.items.length ≤ kind.format.fields.length →
    (∀ field ∈ kind.format.fields.drop list.items.length, field.hasDefault = true) →
      ∃ record, ∀ text, kind.format.Writes list text → decode kind.format.read text = .ok record
  short : list.items.length < kind.format.fields.length →
    (∃ field ∈ kind.format.fields.drop list.items.length, field.hasDefault = false) →
      decode kind.format.read list.text = .error (.misfit
        (.wrongLength list.items.length kind.format.name kind.format.fields.length))
  long : kind.format.fields.length < list.items.length →
    decode kind.format.read list.text = .error (.grammar .malformed)

theorem lengths {kind : RecordKind} {list : ListText} (fits : kind.format.Fits list) :
    kind.Lengths list := by
  have placed := decode_placed kind.composed list
  constructor
  case complete =>
      intro fewer defaults
      exact fits.decode_complete kind.lawful kind.composed fewer defaults
  case short =>
      intro _ needed
      rw [placed, placed_short fits needed, Nat.zero_add]
  case long =>
      intro longer
      rw [placed, placed_long fits longer]

/-- The list form and the object form of a record mean the same. This holds of each kind of record
alone. In the lists of a snapshot of either form, each record is decoded as it is alone, so it holds
there of records in any mix of the two forms. -/
theorem forms_agree :
    (∀ (kind : RecordKind) (list : ListText), kind.format.Fits list → kind.Lengths list) ∧
      ∀ (list : ListText) (rows : List ListText), list.values = rows.map ListText.text →
        rows.length ≤ Snapshot.format.fields.length → ∀ text, Snapshot.format.Writes list text →
          Snapshot.Holds rows (decode Snapshot.format.read text) := by
  constructor
  · intro kind list fits
    exact lengths fits
  · intro list rows same few text writes
    exact Snapshot.holds_rows same few writes

theorem quoted_isValue {content : String} (plain : ArePlain content.toList) :
    IsValue ['"' :: content.toList ++ ['"']] ('"' :: content.toList ++ ['"']) :=
  .quoted (.plain plain)

/-- An item may be a plain text in quotes. -/
def plainItem (content : String) (plain : ArePlain content.toList) : ItemText where
  padded := .bare ('"' :: content.toList ++ ['"'])
  lexemes := ['"' :: content.toList ++ ['"']]
  isValue := quoted_isValue plain

/-- A list may stand between brackets without any blanks. -/
def bareList (items : List ItemText) : ListText := ⟨[], [], items, [], .nil, .nil, .nil⟩

/-- A member may hold any value under a plain key. -/
def holding (key : String) (plain : ArePlain key.toList) (item : ItemText) : MemberText where
  key := key
  entry := ⟨.bare ('"' :: key.toList ++ ['"']), item.padded⟩
  lexemes := item.lexemes
  quotes := .plain plain
  isValue := item.isValue

/-- This enrollment stops after the fields without a default. -/
def listedEnrollment : ListText :=
  bareList [plainItem "s" (by decide), plainItem "c" (by decide)]

/-- This is the same enrollment in another order and with an unknown member. -/
def namedEnrollment : ObjectText where
  before := []
  blanks := []
  members := [.plain "courseId" "c" (by decide) (by decide),
    .plain "note" "?" (by decide) (by decide), .plain "studentId" "s" (by decide) (by decide)]
  after := []
  blankBefore := .nil
  blankInside := .nil
  blankAfter := .nil

/-- One list of this snapshot has both forms of the enrollment, and the others are empty or left
out. -/
def mixedLists : List ListText :=
  [bareList [], bareList [listedEnrollment.item, namedEnrollment.item]]

def mixedSnapshot : ObjectText where
  before := []
  blanks := []
  members := [
    holding "enrollments" (by decide) (bareList [listedEnrollment.item, namedEnrollment.item]).item,
    holding "courses" (by decide) (bareList []).item]
  after := []
  blankBefore := .nil
  blankInside := .nil
  blankAfter := .nil

/-- Both forms of the enrollment are decoded to it, alone and in a snapshot. -/
theorem mixedSnapshot_decoded :
    mixedSnapshot.text = "\x7b\"enrollments\":[[\"s\",\"c\"],\x7b\"courseId\":\"c\"," ++
      "\"note\":\"?\",\"studentId\":\"s\"\x7d],\"courses\":[]\x7d" ∧
    decode Enrollment.format.read listedEnrollment.text = .ok ⟨⟨"s"⟩, ⟨"c"⟩, false⟩ ∧
    decode Enrollment.format.read namedEnrollment.text = .ok ⟨⟨"s"⟩, ⟨"c"⟩, false⟩ ∧
    decode Snapshot.format.read mixedSnapshot.text =
      .ok ⟨[], [⟨⟨"s"⟩, ⟨"c"⟩, false⟩, ⟨⟨"s"⟩, ⟨"c"⟩, false⟩], []⟩ := by
  obtain ⟨alone, nested⟩ := forms_agree
  obtain ⟨record, same⟩ := (alone .enrollment listedEnrollment (by decide +kernel)).complete
    (by decide) (by decide)
  have listed : decode Enrollment.format.read listedEnrollment.text =
      .ok ⟨⟨"s"⟩, ⟨"c"⟩, false⟩ := by
    decide +kernel
  have isRecord := Except.ok.inj ((same _ .list).symm.trans listed)
  have named : decode Enrollment.format.read namedEnrollment.text = .ok record :=
    same _ (.object (by decide +kernel))
  rw [isRecord] at named
  have holds := nested (bareList (mixedLists.map ListText.item)) mixedLists rfl (by decide)
    mixedSnapshot.text (.object (by decide +kernel))
  exact ⟨by decide +kernel, listed, named,
    (holds.succeeds _).mpr ⟨by decide +kernel, by decide +kernel, by decide +kernel⟩⟩

end RecordKind

end CourseAdvisor
