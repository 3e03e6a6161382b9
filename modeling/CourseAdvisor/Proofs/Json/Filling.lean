/-
This file proves that the updates of distinct members fill a record in any order.
-/

import Mathlib.Data.List.Pairwise
import CourseAdvisor.Proofs.Json.ObjectText

namespace CourseAdvisor.Json

open FirstOccurrences

variable {α β : Type}

/-- Two fields are independent when their updates can be made in either order. -/
def Field.Independent (first second : Field α) : Prop :=
  Yields first.read fun update => Yields second.read fun other =>
    ∀ record, update (other record) = other (update record)

instance : Std.Symm (Field.Independent (α := α)) where
  symm _ _ independent _ _ _ secondRead _ _ _ firstRead record :=
    (independent firstRead secondRead record).symm

/-- Fields that set different parts of a record are independent. -/
theorem Field.independent_mapped {γ : Type} {set : β → α → α} {other : γ → α → α}
    {reader : Reader β} {otherReader : Reader γ} {key otherKey : String}
    {hasDefault otherHasDefault : Bool}
    (commute : ∀ value given record,
      set value (other given record) = other given (set value record)) :
    Independent ⟨key, hasDefault, readMapped set reader⟩
      ⟨otherKey, otherHasDefault, readMapped other otherReader⟩ :=
  Yields.mapped fun _ value _ _ => Yields.mapped fun _ given _ _ => commute value given

/-- A lawful format has distinct keys and local and independent fields. -/
structure RecordFormat.Lawful (format : RecordFormat α) : Prop where
  distinct : (format.fields.map (·.key)).Nodup
  areLocal : ∀ field ∈ format.fields, Local field.read
  independent : format.fields.Pairwise Field.Independent

namespace ObjectText

variable {object : ObjectText} {reader : Reader β} {key : String}

/-- Under an absent key there is no value. -/
theorem value?_absent (absent : key ∉ object.keys) : object.value? key reader = none := by
  have nothing : object.members.find? (·.key == key) = none := by
    rw [List.find?_eq_none]
    intro member isMember same
    exact absent (List.mem_map.mpr ⟨member, isMember, by simpa using same⟩)
  rw [value?, nothing]
  rfl

theorem decode_of_value? {value : β} (given : object.value? key reader = some value) :
    ∃ text, decode reader text = .ok value := by
  obtain ⟨member, _, decoded⟩ := Option.bind_eq_some_iff.mp given
  cases result : decode reader member.value with
  | error fault =>
      rw [result] at decoded
      cases decoded
  | ok found =>
      rw [result] at decoded
      exact ⟨_, result.trans (congrArg _ (Option.some.inj decoded))⟩

end ObjectText

namespace RecordFormat

variable {format : RecordFormat α} {object : ObjectText}

/-- A conversion of what is read is a conversion of what is decoded. -/
theorem decode_mapped (convert : β → α) (reader : Reader β) (text : String) :
    decode (readMapped convert reader) text = (decode reader text).map convert := by
  unfold decode readMapped
  cases reader (scan text.toList) with
  | error fault => rfl
  | ok result => cases rest : result.2 <;> simp [bind, Except.bind, pure, Except.pure, rest] <;> rfl

/-- A field is set to the value that its member gives, or else to the default that it has. -/
theorem fill_default (default : β) (key : String) {hasDefault : Bool} {reader : Reader β}
    {set : β → α → α} {record : α} (has : set default record = record) :
    fill object record ⟨key, hasDefault, readMapped set reader⟩ =
      set ((object.value? key reader).getD default) record := by
  unfold fill ObjectText.value?
  cases object.members.find? (·.key == key) with
  | none => exact has.symm
  | some member =>
      simp only [Option.bind_some, decode_mapped]
      cases decode reader member.value with
      | error fault => exact has.symm
      | ok value => rfl

/-- The only member with a known key decides its value. -/
theorem value?_member (distinct : (format.givenKeys object).Nodup) {member : MemberText}
    (isMember : member ∈ object.members) (known : format.isKnown member.key = true)
    (reader : Reader β) :
    object.value? member.key reader = (decode reader member.value).toOption := by
  rw [givenKeys, ObjectText.keys, List.filter_map] at distinct
  have found : object.members.find? (·.key == member.key) = some member := by
    refine find?_only isMember (by simp) fun other isOther same => ?_
    have same : other.key = member.key := by simpa using same
    refine List.inj_on_of_nodup_map distinct ?_ ?_ same
    · exact List.mem_filter.mpr ⟨isOther, by simpa [same] using known⟩
    · exact List.mem_filter.mpr ⟨isMember, known⟩
  rw [ObjectText.value?, found]
  rfl

/-- In a lawful format, the field of a key is the one that has the key. -/
theorem Lawful.field?_eq_some (lawful : format.Lawful) {key : String} {field : Field α} :
    format.field? key = some field ↔ field ∈ format.fields ∧ field.key = key := by
  constructor
  · intro known
    exact ⟨List.mem_of_find?_eq_some known, by simpa using List.find?_some known⟩
  · rintro ⟨isField, rfl⟩
    refine find?_only isField (by simp) fun other isOther same => ?_
    exact List.inj_on_of_nodup_map lawful.distinct isOther isField (by simpa using same)

/-- These are the fields of the members, in the order of the text. -/
def givenFields (format : RecordFormat α) (object : ObjectText) : List (Field α) :=
  object.members.filterMap fun member => format.field? member.key

/-- The members update the fields that they give. -/
theorem revised_members (lawful : format.Lawful) (distinct : (format.givenKeys object).Nodup) :
    revised (object.members.map format.update) format.blank =
      (format.givenFields object).foldl (fill object) format.blank := by
  rw [revised, List.foldl_map, givenFields, List.foldl_filterMap]
  apply List.foldl_ext
  intro record member isMember
  rw [update]
  cases known : format.field? member.key with
  | none => rfl
  | some field =>
      obtain ⟨_, same⟩ := lawful.field?_eq_some.mp known
      simp only [fill, same, value?_member distinct isMember (isKnown_of_field? known)]

/-- The given fields are those whose keys are given, in another order. -/
theorem givenFields_perm (lawful : format.Lawful) (distinct : (format.givenKeys object).Nodup) :
    (format.givenFields object).Perm
      (format.fields.filter fun field => decide (field.key ∈ object.keys)) := by
  have keys : (format.givenFields object).map (·.key) = format.givenKeys object := by
    rw [givenKeys, ObjectText.keys, givenFields]
    induction object.members with
    | nil => rfl
    | cons member members ih =>
        rw [List.filterMap_cons, List.map_cons, List.filter_cons]
        cases known : format.field? member.key with
        | none => simpa [isKnown, known] using ih
        | some field =>
            obtain ⟨_, same⟩ := lawful.field?_eq_some.mp known
            simpa [isKnown, known, same] using ih
  have given : (format.givenFields object).Nodup := .of_map _ (keys ▸ distinct)
  have filtered : (format.fields.filter fun field => decide (field.key ∈ object.keys)).Nodup :=
    (List.Nodup.of_map _ lawful.distinct).filter _
  rw [List.perm_ext_iff_of_nodup given filtered]
  intro field
  rw [givenFields, List.mem_filterMap, List.mem_filter, decide_eq_true_eq, ObjectText.keys,
    List.mem_map]
  constructor
  · rintro ⟨member, isMember, known⟩
    obtain ⟨isField, same⟩ := lawful.field?_eq_some.mp known
    exact ⟨isField, member, isMember, same.symm⟩
  · rintro ⟨isField, member, isMember, same⟩
    exact ⟨member, isMember, lawful.field?_eq_some.mpr ⟨isField, same.symm⟩⟩

/-- Fields are filled in any order. -/
theorem fill_comm (lawful : format.Lawful) {first second : Field α}
    (isFirst : first ∈ format.fields) (isSecond : second ∈ format.fields) (record : α) :
    fill object (fill object record first) second =
      fill object (fill object record second) first := by
  by_cases same : first = second
  · rw [same]
  have independent := lawful.independent.forall isFirst isSecond same
  unfold fill
  cases firstGiven : object.value? first.key first.read with
  | none => rfl
  | some update =>
      cases secondGiven : object.value? second.key second.read with
      | none => rfl
      | some other =>
          obtain ⟨_, firstDecoded⟩ := ObjectText.decode_of_value? firstGiven
          obtain ⟨_, secondDecoded⟩ := ObjectText.decode_of_value? secondGiven
          have commute := Yields.decoded (Yields.decoded independent firstDecoded) secondDecoded
          exact (commute record).symm

/-- The members fill the record in any order, as long as their known keys are distinct. -/
theorem revised_eq_filled (lawful : format.Lawful) (distinct : (format.givenKeys object).Nodup) :
    revised (object.members.map format.update) format.blank = format.filled object := by
  have given := givenFields_perm lawful distinct
  have isField {field : Field α} (isGiven : field ∈ format.givenFields object) :
      field ∈ format.fields := List.mem_of_mem_filter (given.mem_iff.mp isGiven)
  have reordered := given.foldl_eq' (f := fill object) (fun first isFirst second isSecond record =>
    fill_comm lawful (isField isFirst) (isField isSecond) record) format.blank
  rw [revised_members lawful distinct, reordered, filled, List.foldl_filter]
  apply List.foldl_ext
  intro record field _
  split
  case isTrue => rfl
  case isFalse absent =>
      rw [fill, ObjectText.value?_absent (by simpa using absent)]
      rfl

/-- What is missing depends on which keys have been seen and not on their order. -/
theorem missing?_reverse (seen : List String) :
    format.missing? seen.reverse = format.missing? seen := by
  simp [missing?]

/-- An object text is decoded to the filled record, unless a known key comes again or a field
without a default is missing. -/
theorem decode_objectText (lawful : format.Lawful) (accepts : format.Accepts object) :
    decode format.read object.text =
      match repeated? [] (format.givenKeys object) with
      | some key => .error (.misfit (.duplicateField key))
      | none =>
          match format.missing? (format.givenKeys object) with
          | some field => .error (.misfit (.missingField field.key))
          | none => .ok (format.filled object) := by
  rw [decode, read_objectText lawful.areLocal accepts, settled, List.append_nil]
  cases repeats : repeated? [] (format.givenKeys object) with
  | some key => rfl
  | none =>
      obtain ⟨distinct, _⟩ := repeated?_eq_none.mp repeats
      rw [revised_eq_filled lawful distinct, finish, missing?_reverse]
      cases format.missing? (format.givenKeys object) <;> rfl

/-- These are the known members: their keys and the lexemes of their values. -/
def given (format : RecordFormat α) (object : ObjectText) : List (String × List (List Char)) :=
  (object.members.filter fun member => format.isKnown member.key).map
    fun member => (member.key, member.lexemes)

theorem given_keys (format : RecordFormat α) (object : ObjectText) :
    (format.given object).map Prod.fst = format.givenKeys object := by
  rw [given, givenKeys, ObjectText.keys, List.map_map, List.filter_map]
  rfl

theorem mem_given {key : String} {lexemes : List (List Char)} :
    (key, lexemes) ∈ format.given object ↔
      format.isKnown key = true ∧ ∃ member ∈ object.members, member.key = key ∧
        member.lexemes = lexemes := by
  rw [given, List.mem_map]
  constructor
  · rintro ⟨member, isMember, same⟩
    obtain ⟨rfl, rfl⟩ := Prod.mk.inj same
    obtain ⟨inText, known⟩ := List.mem_filter.mp isMember
    exact ⟨known, member, inText, rfl, rfl⟩
  · rintro ⟨known, member, inText, rfl, rfl⟩
    exact ⟨member, List.mem_filter.mpr ⟨inText, known⟩, rfl⟩

/-- Values with the same lexemes are decoded alike, whatever blanks stand between them. -/
theorem decode_lexemes {lexemes : List (List Char)} {first second : List Char}
    (isFirst : IsValue lexemes first) (isSecond : IsValue lexemes second) (reader : Reader β) :
    decode reader (String.ofList first) = decode reader (String.ofList second) := by
  rw [decode, decode, String.toList_ofList, String.toList_ofList, isFirst.scanned.1.alone,
    isSecond.scanned.1.alone]

/-- Members with the same lexemes have values that are decoded alike. -/
theorem decode_members {first second : MemberText} (same : first.lexemes = second.lexemes)
    (reader : Reader β) : decode reader first.value = decode reader second.value :=
  decode_lexemes first.isValue (same ▸ second.isValue) reader

/-- What is decoded under a known key is the same in all texts with the same known members. -/
theorem value?_perm {other : ObjectText} (same : (format.given other).Perm (format.given object))
    (distinct : (format.givenKeys object).Nodup) {key : String}
    (known : format.isKnown key = true) (reader : Reader β) :
    other.value? key reader = object.value? key reader := by
  have otherDistinct : (format.givenKeys other).Nodup := by
    rw [← given_keys] at distinct ⊢
    exact (same.map Prod.fst).nodup_iff.mpr distinct
  by_cases present : key ∈ other.keys
  case pos =>
      obtain ⟨member, isMember, rfl⟩ := List.mem_map.mp present
      have inOther : (member.key, member.lexemes) ∈ format.given other :=
        mem_given.mpr ⟨known, member, isMember, rfl, rfl⟩
      obtain ⟨_, twin, isTwin, sameKey, sameLexemes⟩ := mem_given.mp (same.mem_iff.mp inOther)
      have twinKnown : format.isKnown twin.key = true := sameKey ▸ known
      rw [value?_member otherDistinct isMember known, ← sameKey,
        value?_member distinct isTwin twinKnown, decode_members sameLexemes]
  case neg =>
      have absent : key ∉ object.keys := by
        intro inKeys
        obtain ⟨member, isMember, rfl⟩ := List.mem_map.mp inKeys
        have inObject : (member.key, member.lexemes) ∈ format.given object :=
          mem_given.mpr ⟨known, member, isMember, rfl, rfl⟩
        obtain ⟨_, twin, isTwin, sameKey, _⟩ := mem_given.mp (same.mem_iff.mpr inObject)
        exact present (List.mem_map.mpr ⟨twin, isTwin, sameKey⟩)
      rw [ObjectText.value?_absent present, ObjectText.value?_absent absent]

/-- Texts with the same known members are decoded alike, whatever their order, their blanks, their
spelling and their unknown members are. -/
theorem decode_perm (lawful : format.Lawful) (accepts : format.Accepts object) {other : ObjectText}
    (same : (format.given other).Perm (format.given object))
    (distinct : (format.givenKeys object).Nodup) :
    decode format.read other.text = decode format.read object.text := by
  have otherAccepts : format.Accepts other := by
    intro member isMember field known
    have inOther : (member.key, member.lexemes) ∈ format.given other :=
      mem_given.mpr ⟨isKnown_of_field? known, member, isMember, rfl, rfl⟩
    obtain ⟨_, twin, isTwin, sameKey, sameLexemes⟩ := mem_given.mp (same.mem_iff.mp inOther)
    rw [← decode_members sameLexemes]
    exact accepts twin isTwin field (sameKey ▸ known)
  have keys : (format.givenKeys other).Perm (format.givenKeys object) := by
    rw [← given_keys, ← given_keys]
    exact same.map Prod.fst
  have unrepeated : repeated? [] (format.givenKeys object) = none :=
    repeated?_eq_none.mpr ⟨distinct, by simp⟩
  have otherUnrepeated : repeated? [] (format.givenKeys other) = none :=
    repeated?_eq_none.mpr ⟨keys.nodup_iff.mpr distinct, by simp⟩
  have missing : format.missing? (format.givenKeys other) =
      format.missing? (format.givenKeys object) := by
    simp only [missing?, List.contains_eq_mem, keys.mem_iff]
  have filled : format.filled other = format.filled object := by
    apply List.foldl_ext
    intro record field isField
    rw [fill, fill, value?_perm same distinct (isKnown_key isField)]
  rw [decode_objectText lawful otherAccepts, decode_objectText lawful accepts, unrepeated,
    otherUnrepeated, missing, filled]

end RecordFormat

end CourseAdvisor.Json
