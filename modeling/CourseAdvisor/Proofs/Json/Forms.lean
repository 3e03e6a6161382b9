/-
This file proves that the list form of a record is decoded as its object form when both give the
same values, and what is reported when a list is too short or too long.
-/

import CourseAdvisor.Proofs.Json.ListText

namespace CourseAdvisor.Json

open FirstOccurrences

variable {α ι : Type}

namespace RecordFormat

section

variable {format : RecordFormat α} {outcome : Field α → ι → Except ReadError (α → α)}
  {fields : List (Field α)} {items : List ι}

/-- Items that fit their fields are placed, and what is left of either decides. -/
theorem placed_fitting
    (fits : ∀ pair ∈ fields.zip items, ∃ update, outcome pair.1 pair.2 = .ok update)
    (count : Nat) (record : α) :
    ∃ final, format.placed outcome count record fields items =
      format.placed outcome (count + (fields.zip items).length) final
        (fields.drop items.length) (items.drop fields.length) := by
  induction fields generalizing items count record with
  | nil => exact ⟨record, by cases items <;> rfl⟩
  | cons field fields ih =>
      cases items with
      | nil => exact ⟨record, rfl⟩
      | cons item items =>
          obtain ⟨update, first⟩ := fits (field, item) List.mem_cons_self
          obtain ⟨final, others⟩ := ih (fun pair isPair => fits pair (List.mem_cons_of_mem _ isPair))
            (count + 1) (update record)
          have counts : count + 1 + (fields.zip items).length =
              count + ((field :: fields).zip (item :: items)).length := by
            rw [List.zip_cons_cons, List.length_cons]
            omega
          refine ⟨final, ?_⟩
          rw [placed, first, ← counts]
          exact others

/-- A list may stop early when the fields that are left have defaults. -/
theorem placed_complete
    (fits : ∀ pair ∈ fields.zip items, ∃ update, outcome pair.1 pair.2 = .ok update)
    (fewer : items.length ≤ fields.length)
    (defaults : ∀ field ∈ fields.drop items.length, field.hasDefault = true)
    (count : Nat) (record : α) :
    ∃ final, format.placed outcome count record fields items = .ok final := by
  obtain ⟨final, same⟩ := format.placed_fitting fits count record
  refine ⟨final, ?_⟩
  rw [same, List.drop_eq_nil_of_le fewer, placed, if_pos (List.all_eq_true.mpr defaults)]

/-- A list that stops before a field without a default is too short. -/
theorem placed_short
    (fits : ∀ pair ∈ fields.zip items, ∃ update, outcome pair.1 pair.2 = .ok update)
    (needed : ∃ field ∈ fields.drop items.length, field.hasDefault = false)
    (count : Nat) (record : α) :
    format.placed outcome count record fields items =
      .error (.misfit (.wrongLength (count + items.length) format.name format.fields.length)) := by
  obtain ⟨field, isLeft, noDefault⟩ := needed
  have fewer : items.length < fields.length := by
    have left := List.length_pos_of_mem isLeft
    rw [List.length_drop] at left
    omega
  have someNeeded : ¬(fields.drop items.length).all (·.hasDefault) = true := by
    intro all
    rw [List.all_eq_true.mp all field isLeft] at noDefault
    cases noDefault
  have counts : (fields.zip items).length = items.length := by
    rw [List.length_zip]
    omega
  obtain ⟨final, same⟩ := format.placed_fitting fits count record
  rw [same, List.drop_eq_nil_of_le fewer.le, placed, if_neg someNeeded, counts]

/-- A list with an item beyond the last field is malformed. -/
theorem placed_long
    (fits : ∀ pair ∈ fields.zip items, ∃ update, outcome pair.1 pair.2 = .ok update)
    (longer : fields.length < items.length) (count : Nat) (record : α) :
    format.placed outcome count record fields items = .error (.grammar .malformed) := by
  obtain ⟨final, same⟩ := format.placed_fitting fits count record
  obtain ⟨item, others, left⟩ : ∃ item others, items.drop fields.length = item :: others := by
    apply List.exists_cons_of_ne_nil
    rw [List.ne_nil_iff_length_pos, List.length_drop]
    omega
  rw [same, List.drop_eq_nil_of_le longer.le, left]
  rfl

/-- Items that fill their fields as the members of an object do fill the same record. -/
theorem placed_filled {object : ObjectText}
    (given : ∀ pair ∈ fields.zip items, ∃ update, outcome pair.1 pair.2 = .ok update ∧
      object.value? pair.1.key pair.1.read = some update)
    (fewer : items.length ≤ fields.length)
    (absent : ∀ field ∈ fields.drop items.length,
      field.hasDefault = true ∧ object.value? field.key field.read = none)
    (count : Nat) (record : α) :
    format.placed outcome count record fields items = .ok (fields.foldl (fill object) record) := by
  induction fields generalizing items count record with
  | nil =>
      obtain rfl := List.length_eq_zero_iff.mp (Nat.le_zero.mp fewer)
      rfl
  | cons field fields ih =>
      rw [List.foldl_cons]
      cases items with
      | nil =>
          obtain ⟨_, unfilled⟩ := absent field List.mem_cons_self
          have others := @ih [] (by simp) (Nat.zero_le _)
            (fun other isLeft => absent other (List.mem_cons_of_mem field isLeft)) count record
          have all : (field :: fields).all (·.hasDefault) = true :=
            List.all_eq_true.mpr fun other isLeft => (absent other isLeft).1
          have allOthers : fields.all (·.hasDefault) = true :=
            List.all_eq_true.mpr fun other isLeft =>
              (absent other (List.mem_cons_of_mem field isLeft)).1
          rw [placed, if_pos allOthers] at others
          rw [placed, if_pos all, others, fill, unfilled]
          rfl
      | cons item items =>
          obtain ⟨update, first, filled⟩ := given (field, item) List.mem_cons_self
          rw [placed, first, fill, filled]
          exact ih (fun pair isPair => given pair (List.mem_cons_of_mem _ isPair))
            (Nat.le_of_succ_le_succ fewer) absent (count + 1) (update record)

/-- Placing stops with the error of the first item that does not fit. -/
theorem placed_refused
    (unfit : ∃ pair ∈ fields.zip items, ∀ update, outcome pair.1 pair.2 ≠ .ok update)
    (count : Nat) (record : α) :
    ∃ pair ∈ fields.zip items, ∃ error, outcome pair.1 pair.2 = .error error ∧
      format.placed outcome count record fields items = .error error := by
  induction fields generalizing items count record with
  | nil => simp at unfit
  | cons field fields ih =>
      cases items with
      | nil => simp at unfit
      | cons item items =>
          rw [placed, List.zip_cons_cons]
          cases first : outcome field item with
          | error error => exact ⟨(field, item), List.mem_cons_self, error, first, rfl⟩
          | ok update =>
              have others : ∃ pair ∈ fields.zip items, ∀ update,
                  outcome pair.1 pair.2 ≠ .ok update := by
                obtain ⟨pair, isPair, refused⟩ := unfit
                cases isPair with
                | head => exact absurd first (refused update)
                | tail _ isLater => exact ⟨pair, isLater, refused⟩
              obtain ⟨pair, isPair, error, refused, stopped⟩ := ih others (count + 1) (update record)
              exact ⟨pair, List.mem_cons_of_mem _ isPair, error, refused, stopped⟩

end

section

variable {format : RecordFormat α} {object : ObjectText} {list : ListText}

/-- Each value of a list that has a field is acceptable for it. -/
def Fits (format : RecordFormat α) (list : ListText) : Prop :=
  ∀ pair ∈ format.fields.zip list.items, ∃ update, pair.1.ofItem pair.2 = .ok update

instance (format : RecordFormat α) (list : ListText) : Decidable (format.Fits list) :=
  decidable_of_iff
    (∀ pair ∈ format.fields.zip list.items, (pair.1.ofItem pair.2).isOk = true) <| by
    simp only [isOk_iff]
    rfl

/-- An object gives the values of a list under the first keys. Its members stand in any order and
next to members with unknown keys. -/
def Gives (format : RecordFormat α) (object : ObjectText) (list : ListText) : Prop :=
  (format.given object).Perm
    ((format.fields.map (·.key)).zip (list.items.map (·.lexemes)))

instance (format : RecordFormat α) (object : ObjectText) (list : ListText) :
    Decidable (format.Gives object list) :=
  inferInstanceAs (Decidable (List.Perm _ _))

theorem zip_fst {γ δ : Type} (firsts : List γ) (seconds : List δ) :
    (firsts.zip seconds).map Prod.fst = firsts.take seconds.length := by
  induction firsts generalizing seconds with
  | nil => simp
  | cons first firsts ih =>
      cases seconds with
      | nil => rfl
      | cons second seconds => simp [ih]

/-- The known keys are the first ones. -/
theorem Gives.keys (gives : format.Gives object list) :
    (format.givenKeys object).Perm ((format.fields.map (·.key)).take list.items.length) := by
  have keys := gives.map Prod.fst
  rwa [given_keys, zip_fst, List.length_map] at keys

theorem Gives.distinct (lawful : format.Lawful) (gives : format.Gives object list) :
    (format.givenKeys object).Nodup :=
  gives.keys.nodup_iff.mpr (lawful.distinct.sublist (List.take_sublist _ _))

/-- A known member gives the value of an item. -/
theorem Gives.item (lawful : format.Lawful) (gives : format.Gives object list)
    {member : MemberText} (isMember : member ∈ object.members) {field : Field α}
    (known : format.field? member.key = some field) :
    ∃ item, (field, item) ∈ format.fields.zip list.items ∧
      field.ofMember member = field.ofItem item := by
  have isGiven : (member.key, member.lexemes) ∈ format.given object :=
    mem_given.mpr ⟨isKnown_of_field? known, member, isMember, rfl, rfl⟩
  have isZipped := gives.mem_iff.mp isGiven
  rw [List.zip_map] at isZipped
  obtain ⟨⟨other, item⟩, isPair, same⟩ := List.mem_map.mp isZipped
  obtain ⟨sameKey, sameLexemes⟩ := Prod.mk.inj same
  have isField : other ∈ format.fields := (List.of_mem_zip isPair).1
  have found := lawful.field?_eq_some.mpr ⟨isField, sameKey⟩
  obtain rfl := Option.some.inj (known.symm.trans found)
  have isValue := item.isValue
  rw [show item.lexemes = member.lexemes from sameLexemes] at isValue
  exact ⟨item, isPair, decode_lexemes member.isValue isValue field.read⟩

/-- A field that has an item is given with its value. -/
theorem Gives.member (gives : format.Gives object list) {pair : Field α × ItemText}
    (isPair : pair ∈ format.fields.zip list.items) :
    ∃ member ∈ object.members, member.key = pair.1.key ∧
      pair.1.ofMember member = pair.1.ofItem pair.2 := by
  have isZipped : (pair.1.key, pair.2.lexemes) ∈
      (format.fields.map (·.key)).zip (list.items.map (·.lexemes)) := by
    rw [List.zip_map]
    exact List.mem_map.mpr ⟨pair, isPair, rfl⟩
  obtain ⟨_, member, isMember, sameKey, sameLexemes⟩ := mem_given.mp (gives.mem_iff.mpr isZipped)
  have isValue := pair.2.isValue
  rw [← sameLexemes] at isValue
  exact ⟨member, isMember, sameKey, decode_lexemes member.isValue isValue pair.1.read⟩

/-- Under the key of a field that has an item, there is its value. -/
theorem Gives.value? (lawful : format.Lawful) (gives : format.Gives object list)
    {pair : Field α × ItemText} (isPair : pair ∈ format.fields.zip list.items) :
    object.value? pair.1.key pair.1.read = (pair.1.ofItem pair.2).toOption := by
  obtain ⟨member, isMember, sameKey, same⟩ := gives.member isPair
  have known := isKnown_key (List.of_mem_zip isPair).1
  rw [← sameKey] at known ⊢
  rw [value?_member (gives.distinct lawful) isMember known, ← same]
  rfl

/-- Fields that have no item are not given. -/
theorem Gives.absent (lawful : format.Lawful) (gives : format.Gives object list)
    {field : Field α} (isLeft : field ∈ format.fields.drop list.items.length) :
    field.key ∉ object.keys := by
  intro inKeys
  have isField := List.mem_of_mem_drop isLeft
  have isGiven : field.key ∈ format.givenKeys object :=
    List.mem_filter.mpr ⟨inKeys, isKnown_key isField⟩
  have isFirst := gives.keys.mem_iff.mp isGiven
  have isLater : field.key ∈ (format.fields.map (·.key)).drop list.items.length := by
    rw [← List.map_drop]
    exact List.mem_map_of_mem isLeft
  exact List.disjoint_take_drop lawful.distinct le_rfl isFirst isLater

theorem Gives.accepts (lawful : format.Lawful) (gives : format.Gives object list)
    (fits : format.Fits list) : format.Accepts object := by
  intro member isMember field known
  obtain ⟨item, isPair, same⟩ := gives.item lawful isMember known
  obtain ⟨update, decoded⟩ := fits (field, item) isPair
  exact ⟨update, same.trans decoded⟩

/-- No field without a default is missing when those that have no item have defaults. -/
theorem Gives.complete (gives : format.Gives object list)
    (defaults : ∀ field ∈ format.fields.drop list.items.length, field.hasDefault = true) :
    format.missing? (format.givenKeys object) = none := by
  rw [missing?, List.find?_eq_none]
  intro field isField
  rw [← List.take_append_drop list.items.length format.fields, List.mem_append] at isField
  cases isField with
  | inl isFirst =>
      have isKey : field.key ∈ (format.fields.map (·.key)).take list.items.length := by
        rw [← List.map_take]
        exact List.mem_map_of_mem isFirst
      simp [gives.keys.mem_iff.mpr isKey]
  | inr isLeft => simp [defaults field isLeft]

/-- A text writes the values of a list in either form. -/
inductive Writes (format : RecordFormat α) (list : ListText) : String → Prop
  | list : Writes format list list.text
  | object {object : ObjectText} (gives : format.Gives object list) : Writes format list object.text

/-- Gathering stops with the error of the first known member that does not fit. -/
theorem gathered_refused {members : List MemberText} {seen : List String}
    (distinct : ((members.map (·.key)).filter format.isKnown).Nodup)
    (fresh : ∀ member ∈ members, format.isKnown member.key = true → member.key ∉ seen)
    (unfit : ∃ member ∈ members, ∃ field, format.field? member.key = some field ∧
      ∀ update, field.ofMember member ≠ .ok update) (record : α) :
    ∃ member ∈ members, ∃ field, format.field? member.key = some field ∧
      ∃ error, field.ofMember member = .error error ∧
        format.gathered (fun member => some member.key) Field.ofMember seen record members =
          .error error := by
  induction members generalizing seen record with
  | nil => simp at unfit
  | cons member members ih =>
      rw [List.map_cons, List.filter_cons] at distinct
      -- When the first member fits or is unknown, another member is the one that does not fit.
      have others (fits : ∀ field, format.field? member.key = some field →
          ∃ update, field.ofMember member = .ok update) :
          ∃ other ∈ members, ∃ field, format.field? other.key = some field ∧
            ∀ update, field.ofMember other ≠ .ok update := by
        obtain ⟨other, isOther, field, known, refused⟩ := unfit
        cases isOther with
        | head =>
            obtain ⟨update, fits⟩ := fits field known
            exact absurd fits (refused update)
        | tail _ isLater => exact ⟨other, isLater, field, known, refused⟩
      cases known : format.field? member.key with
      | none =>
          have skipped : format.taken (fun member => some member.key) Field.ofMember seen member =
              .ok (id, seen) := by
            unfold taken
            dsimp only
            rw [known]
          have unknown : format.isKnown member.key = false := by rw [isKnown, known]; rfl
          rw [unknown, if_neg Bool.false_ne_true] at distinct
          obtain ⟨other, isOther, stopped⟩ := ih distinct
            (fun other isOther => fresh other (List.mem_cons_of_mem member isOther))
            (others (by simp [known])) record
          rw [gathered, skipped]
          exact ⟨other, List.mem_cons_of_mem member isOther, stopped⟩
      | some field =>
          have isKnown := isKnown_of_field? known
          have unseen : ¬seen.contains member.key = true := by
            simpa using fresh member List.mem_cons_self isKnown
          have taken : format.taken (fun member => some member.key) Field.ofMember seen member =
              (field.ofMember member).map (·, member.key :: seen) := by
            unfold taken
            dsimp only
            rw [known]
            exact if_neg unseen
          rw [isKnown, if_pos rfl, List.nodup_cons] at distinct
          rw [gathered, taken]
          cases first : field.ofMember member with
          | error error => exact ⟨member, List.mem_cons_self, field, known, error, first, rfl⟩
          | ok update =>
              have freshOthers : ∀ other ∈ members, format.isKnown other.key = true →
                  other.key ∉ member.key :: seen := by
                intro other isOther otherKnown
                rw [List.mem_cons, not_or]
                constructor
                · intro same
                  have isKey := List.mem_map_of_mem (f := MemberText.key) isOther
                  rw [same] at isKey
                  exact distinct.1 (List.mem_filter.mpr ⟨isKey, isKnown⟩)
                · exact fresh other (List.mem_cons_of_mem member isOther) otherKnown
              have fits : ∀ other, format.field? member.key = some other →
                  ∃ update, other.ofMember member = .ok update := by
                intro other isField
                obtain rfl := Option.some.inj (known.symm.trans isField)
                exact ⟨update, first⟩
              obtain ⟨other, isOther, stopped⟩ :=
                ih distinct.2 freshOthers (others fits) (update record)
              exact ⟨other, List.mem_cons_of_mem member isOther, stopped⟩

variable (lawful : format.Lawful) (composed : ∀ field ∈ format.fields, Composed field.read)

include lawful composed

/-- Both forms are decoded to the same record when no field without a default is left. -/
theorem Fits.decode_complete (fits : format.Fits list)
    (fewer : list.items.length ≤ format.fields.length)
    (defaults : ∀ field ∈ format.fields.drop list.items.length, field.hasDefault = true) :
    ∃ record, ∀ text, format.Writes list text → decode format.read text = .ok record := by
  obtain ⟨record, complete⟩ := format.placed_complete fits fewer defaults 0 format.blank
  refine ⟨record, fun text writes => ?_⟩
  cases writes with
  | list => exact (decode_placed composed list).trans complete
  | @object object gives =>
      have given : ∀ pair ∈ format.fields.zip list.items, ∃ update,
          pair.1.ofItem pair.2 = .ok update ∧
            object.value? pair.1.key pair.1.read = some update := by
        intro pair isPair
        obtain ⟨update, decoded⟩ := fits pair isPair
        refine ⟨update, decoded, ?_⟩
        rw [gives.value? lawful isPair, decoded]
        rfl
      have absent : ∀ field ∈ format.fields.drop list.items.length,
          field.hasDefault = true ∧ object.value? field.key field.read = none :=
        fun field isLeft =>
          ⟨defaults field isLeft, ObjectText.value?_absent (gives.absent lawful isLeft)⟩
      have filled : format.filled object = record :=
        Except.ok.inj ((placed_filled given fewer absent 0 format.blank).symm.trans complete)
      have unrepeated : repeated? [] (format.givenKeys object) = none :=
        repeated?_eq_none.mpr ⟨gives.distinct lawful, by simp⟩
      rw [decode_objectText lawful (gives.accepts lawful fits), unrepeated,
        gives.complete defaults, filled]

/-- In either form, a text fails with the error of a value that does not fit its field. -/
theorem Writes.refused {text : String} (writes : format.Writes list text)
    (unfit : ¬format.Fits list) :
    ∃ pair ∈ format.fields.zip list.items, ∃ error, pair.1.ofItem pair.2 = .error error ∧
      decode format.read text = .error error := by
  unfold Fits at unfit
  push Not at unfit
  cases writes with
  | list =>
      rw [decode_placed composed]
      exact placed_refused unfit 0 format.blank
  | @object object gives =>
      obtain ⟨pair, isPair, refused⟩ := unfit
      obtain ⟨member, isMember, sameKey, same⟩ := gives.member isPair
      have known : format.field? member.key = some pair.1 :=
        lawful.field?_eq_some.mpr ⟨(List.of_mem_zip isPair).1, sameKey.symm⟩
      obtain ⟨other, isOther, field, otherKnown, error, failed, stopped⟩ := gathered_refused
        (gives.distinct lawful) (fun _ _ _ => List.not_mem_nil)
        ⟨member, isMember, pair.1, known, same ▸ refused⟩ format.blank
      obtain ⟨item, isItem, sameItem⟩ := gives.item lawful isOther otherKnown
      rw [decode_gathered composed]
      exact ⟨(field, item), isItem, error, sameItem ▸ failed, stopped⟩

end

end RecordFormat

end CourseAdvisor.Json
