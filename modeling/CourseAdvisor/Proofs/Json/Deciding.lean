/-
This file proves that what a reader makes of a value does not depend on where the value stands,
whether the value is read or refused.
-/

import CourseAdvisor.Proofs.Json.Cuts
import CourseAdvisor.Proofs.Json.ObjectText

namespace CourseAdvisor.Json

variable {α β ι : Type}

/-- A reader makes this of the tokens, whatever follows them. -/
def Decides (reader : Reader α) (tokens : List Token) (outcome : Except ReadError α) : Prop :=
  ∀ rest, reader (Tape.push tokens rest) = outcome.map (·, rest)

/-- No value starts with a closing bracket. -/
theorem Shaped.head {tokens : List Token} (shaped : Shaped tokens) :
    ∃ head ∈ tokens.head?, head ≠ .closeList := by
  cases shaped with
  | @scalar head isScalar =>
      refine ⟨head, rfl, ?_⟩
      intro closes
      rw [closes] at isScalar
      cases isScalar
  | list | object => exact ⟨_, rfl, Token.noConfusion⟩

/-- A list with a first item does not close at once. -/
theorem Shaped.unclosed {first : List Token} (shaped : Shaped first) (others : List (List Token))
    (rest left : Tape) : Tape.push (listTokens (first :: others)) rest ≠ .token .closeList left := by
  obtain ⟨head, isHead, notClose⟩ := shaped.head
  obtain ⟨following, same⟩ := List.head?_eq_some_iff.mp (listTokens_head isHead others)
  rw [same, Tape.push_cons]
  intro closed
  exact notClose (Tape.token.inj closed).1

section

variable {tokens : ι → List Token}

theorem readItems_decides {reader : Reader α} {outcome : ι → Except ReadError α} {items : List ι}
    (decides : ∀ item ∈ items, Decides reader (tokens item) (outcome item))
    (nonempty : items ≠ []) {fuel : Nat} (enough : items.length ≤ fuel) (rest : Tape) :
    readItems reader fuel (Tape.push (listTokens (items.map tokens)) rest) =
      (items.mapM outcome).map (·, rest) := by
  induction items generalizing fuel with
  | nil => exact absurd rfl nonempty
  | cons item items ih =>
      have first := decides item List.mem_cons_self
      cases fuel with
      | zero => simp at enough
      | succ fuel =>
          rw [List.mapM_cons]
          cases items with
          | nil =>
              rw [List.map_singleton, listTokens, Tape.push_append, readItems, first]
              cases outcome item <;> rfl
          | cons second further =>
              have left := ih (fun other member => decides other (List.mem_cons_of_mem item member))
                (List.cons_ne_nil second further) (Nat.le_of_succ_le_succ enough)
              rw [List.map_cons, List.map_cons, listTokens, Tape.push_append, Tape.push_cons,
                readItems, first, ← List.map_cons]
              cases outcome item with
              | error fault => rfl
              | ok value =>
                  show (readItems reader fuel _ >>= _) = _
                  rw [left]
                  cases (second :: further).mapM outcome <;> rfl
              · simp

/-- A list is read item by item, up to the first that is refused. -/
theorem Decides.list {reader : Reader α} {outcome : ι → Except ReadError α} {items : List ι}
    (shaped : ∀ item ∈ items, Shaped (tokens item))
    (decides : ∀ item ∈ items, Decides reader (tokens item) (outcome item)) :
    Decides (readList reader) (.openList :: listTokens (items.map tokens))
      (items.mapM outcome) := by
  intro rest
  cases items with
  | nil => rfl
  | cons item items =>
      rw [Tape.push_cons, List.map_cons,
        readList_open ((shaped item List.mem_cons_self).unclosed (items.map tokens) rest),
        ← List.map_cons]
      apply readItems_decides decides (List.cons_ne_nil item items)
      have longer := listTokens_length ((item :: items).map tokens)
      rw [List.length_map] at longer
      rw [Tape.push_length]
      omega

/-- The further items of a list come after commas. -/
def furtherTokens (items : List (List Token)) : List Token :=
  items.flatMap (.comma :: ·) ++ [.closeList]

theorem listTokens_cons (item : List Token) (items : List (List Token)) :
    listTokens (item :: items) = item ++ furtherTokens items := by
  induction items generalizing item with
  | nil => rfl
  | cons second others ih =>
      rw [listTokens, ih]
      · simp [furtherTokens]
      · exact List.cons_ne_nil second others

theorem entryTokens_cons_cons (first second : Option String × List Token)
    (entries : List (Option String × List Token)) :
    entryTokens (first :: second :: entries) =
      .text first.1 :: .colon :: (first.2 ++ .comma :: entryTokens (second :: entries)) := by
  rw [entryTokens, List.map_cons, List.map_cons, List.intercalate_cons_cons]
  simp [entryTokens]

/-- Every entry takes at least the token that ends it. -/
theorem entryTokens_length (entries : List (Option String × List Token)) :
    entries.length ≤ (entryTokens entries).length := by
  induction entries with
  | nil => simp
  | cons first entries ih =>
      cases entries with
      | nil => simp [entryTokens]
      | cons second others =>
          rw [entryTokens_cons_cons]
          simp only [List.length_cons, List.length_append] at ih ⊢
          omega

namespace RecordFormat

variable {format : RecordFormat α} {outcome : Field α → ι → Except ReadError (α → α)}

/-- This is what comes of the items of a list form. Each in turn updates the record as its field
says; the fields that are left must have defaults, and no item may be left. -/
def placed (format : RecordFormat α) (outcome : Field α → ι → Except ReadError (α → α))
    (count : Nat) (record : α) : List (Field α) → List ι → Except ReadError α
  | fields, [] =>
      if fields.all (·.hasDefault) then .ok record
      else .error (.misfit (.wrongLength count format.name format.fields.length))
  | [], _ :: _ => .error (.grammar .malformed)
  | field :: fields, item :: items => do
      let update ← outcome field item
      placed format outcome (count + 1) (update record) fields items

/-- A list form that has begun goes on with commas. -/
theorem readPositions_further {fields : List (Field α)} {items : List ι}
    (decides : ∀ field ∈ fields, ∀ item ∈ items,
      Decides field.read (tokens item) (outcome field item))
    {count : Nat} (begun : count ≠ 0) (record : α) (rest : Tape) :
    format.readPositions count record fields
        (Tape.push (furtherTokens (items.map tokens)) rest) =
      (format.placed outcome count record fields items).map (·, rest) := by
  induction fields generalizing items count record with
  | nil => cases items <;> rfl
  | cons field fields ih =>
      cases items with
      | nil =>
          show format.readPositions count record (field :: fields) (.token .closeList rest) = _
          rw [readPositions, placed]
          split <;> rfl
      | cons item items =>
          have first := decides field List.mem_cons_self item List.mem_cons_self
          have others : ∀ other ∈ fields, ∀ later ∈ items,
              Decides other.read (tokens later) (outcome other later) :=
            fun other isField later isItem => decides other (List.mem_cons_of_mem field isField)
              later (List.mem_cons_of_mem item isItem)
          have split : furtherTokens ((item :: items).map tokens) =
              .comma :: (tokens item ++ furtherTokens (items.map tokens)) := by
            simp [furtherTokens]
          rw [split, Tape.push_cons, Tape.push_append, readPositions_cons (by simp),
            if_neg begun, placed]
          show (field.read _ >>= _) = _
          rw [first]
          cases outcome field item with
          | error fault => rfl
          | ok update => exact ih others (Nat.succ_ne_zero count) (update record)

/-- The items of a list form are read in the order of the fields. -/
theorem readPositions_decides {fields : List (Field α)} {items : List ι}
    (shaped : ∀ item ∈ items, Shaped (tokens item))
    (decides : ∀ field ∈ fields, ∀ item ∈ items,
      Decides field.read (tokens item) (outcome field item)) (record : α) (rest : Tape) :
    format.readPositions 0 record fields (Tape.push (listTokens (items.map tokens)) rest) =
      (format.placed outcome 0 record fields items).map (·, rest) := by
  cases items with
  | nil =>
      cases fields with
      | nil => rfl
      | cons field fields =>
          show format.readPositions 0 record (field :: fields) (.token .closeList rest) = _
          rw [readPositions, placed]
          split <;> rfl
  | cons item items =>
      have unclosed := (shaped item List.mem_cons_self).unclosed (items.map tokens) rest
      rw [List.map_cons]
      cases fields with
      | nil =>
          obtain ⟨head, isHead, notClose⟩ := (shaped item List.mem_cons_self).head
          obtain ⟨following, same⟩ :=
            List.head?_eq_some_iff.mp (listTokens_head isHead (items.map tokens))
          rw [same, Tape.push_cons]
          cases head <;> first | rfl | exact absurd rfl notClose
      | cons field fields =>
          have first := decides field List.mem_cons_self item List.mem_cons_self
          rw [readPositions_cons unclosed, if_pos rfl, listTokens_cons, Tape.push_append, placed]
          show (field.read _ >>= _) = _
          rw [first]
          cases outcome field item with
          | error fault => rfl
          | ok update =>
              apply readPositions_further _ (Nat.succ_ne_zero 0)
              intro other isField later isItem
              exact decides other (List.mem_cons_of_mem field isField) later
                (List.mem_cons_of_mem item isItem)

/-- A member of an object with a known key is an update, and its key is kept in mind. An unknown one
is skipped. -/
def taken (format : RecordFormat α) (key : ι → Option String)
    (outcome : Field α → ι → Except ReadError (α → α)) (seen : List String) (member : ι) :
    Except ReadError ((α → α) × List String) :=
  match key member with
  | none => .error (.grammar .malformed)
  | some name =>
      match format.field? name with
      | none => .ok (id, seen)
      | some field =>
          if seen.contains name then .error (.misfit (.duplicateField name))
          else (outcome field member).map (·, name :: seen)

/-- This is what comes of the members of an object, which are taken one after the other. -/
def gathered (format : RecordFormat α) (key : ι → Option String)
    (outcome : Field α → ι → Except ReadError (α → α)) (seen : List String) (record : α) :
    List ι → Except ReadError α
  | [] => (format.finish seen record .finished).map Prod.fst
  | member :: members => do
      let given ← format.taken key outcome seen member
      gathered format key outcome given.2 (given.1 record) members

theorem finish_map (seen : List String) (record : α) (rest : Tape) :
    format.finish seen record rest =
      ((format.finish seen record .finished).map Prod.fst).map (·, rest) := by
  unfold finish
  cases format.missing? seen <;> rfl

theorem readMember_decides {key : ι → Option String} {member : ι} (shaped : Shaped (tokens member))
    (decides : ∀ field ∈ format.fields,
      Decides field.read (tokens member) (outcome field member))
    (seen : List String) {name : String} (named : key member = some name) (rest : Tape) :
    format.readMember seen name (.token .colon (Tape.push (tokens member) rest)) =
      (format.taken key outcome seen member).map fun given => (given.1, given.2, rest) := by
  rw [taken, named]
  dsimp only
  unfold readMember
  cases known : format.field? name with
  | none =>
      have skipped : skipValue (Tape.push (tokens member) rest) = .ok rest :=
        (shaped.passes rfl [] rest).trans (skipFrom_done rest)
      simp [readColon, skipped, bind, Except.bind, pure, Except.pure, Except.map]
  | some field =>
      have read := decides field (List.mem_of_find?_eq_some known) rest
      dsimp only
      split
      case isTrue => rfl
      case isFalse =>
          show (field.read (Tape.push (tokens member) rest) >>= _) = _
          rw [read]
          cases outcome field member <;> rfl

/-- The members of an object are read in their order. -/
theorem readMembers_decides {key : ι → Option String} {members : List ι}
    (shaped : ∀ member ∈ members, Shaped (tokens member))
    (decides : ∀ member ∈ members, ∀ field ∈ format.fields,
      Decides field.read (tokens member) (outcome field member))
    (nonempty : members ≠ []) {fuel : Nat} (enough : members.length ≤ fuel) (seen : List String)
    (record : α) (rest : Tape) :
    format.readMembers fuel seen record
        (Tape.push (entryTokens (members.map fun member => (key member, tokens member))) rest) =
      (format.gathered key outcome seen record members).map (·, rest) := by
  induction members generalizing fuel seen record with
  | nil => exact absurd rfl nonempty
  | cons member members ih =>
      have first {name : String} (named : key member = some name) (after : Tape) :=
        readMember_decides (shaped member List.mem_cons_self)
          (decides member List.mem_cons_self) seen named after
      cases fuel with
      | zero => simp at enough
      | succ fuel =>
          rw [gathered]
          cases members with
          | nil =>
              have alone : Tape.push (entryTokens [(key member, tokens member)]) rest =
                  .token (.text (key member)) (.token .colon
                    (Tape.push (tokens member) (.token .closeObject rest))) := by
                simp [entryTokens]
              rw [List.map_singleton, alone]
              -- A key that names half a character is refused before its value is read.
              cases named : key member with
              | none =>
                  rw [taken, named]
                  rfl
              | some name =>
                  show (format.readMember seen name _ >>= _) = _
                  rw [first named]
                  cases format.taken key outcome seen member with
                  | error fault => rfl
                  | ok given => exact finish_map given.2 (given.1 record) rest
          | cons second further =>
              have others := ih
                (fun other isMember => shaped other (List.mem_cons_of_mem member isMember))
                (fun other isMember => decides other (List.mem_cons_of_mem member isMember))
                (List.cons_ne_nil second further) (Nat.le_of_succ_le_succ enough)
              have split : entryTokens ((member :: second :: further).map
                  fun member => (key member, tokens member)) =
                    .text (key member) :: .colon :: (tokens member ++ .comma ::
                      entryTokens ((second :: further).map
                        fun member => (key member, tokens member))) :=
                entryTokens_cons_cons _ _ _
              rw [split, Tape.push_cons, Tape.push_cons, Tape.push_append, Tape.push_cons]
              cases named : key member with
              | none =>
                  rw [taken, named]
                  rfl
              | some name =>
                  show (format.readMember seen name _ >>= _) = _
                  rw [first named]
                  cases format.taken key outcome seen member with
                  | error fault => rfl
                  | ok given => exact others given.2 (given.1 record)

/-- The items of a list form decide a record. -/
theorem read_list {items : List ι} (shaped : ∀ item ∈ items, Shaped (tokens item))
    (decides : ∀ field ∈ format.fields, ∀ item ∈ items,
      Decides field.read (tokens item) (outcome field item)) :
    Decides format.read (.openList :: listTokens (items.map tokens))
      (format.placed outcome 0 format.blank format.fields items) :=
  readPositions_decides shaped decides format.blank

/-- The members of an object decide a record. -/
theorem read_entries {key : ι → Option String} {members : List ι}
    (shaped : ∀ member ∈ members, Shaped (tokens member))
    (decides : ∀ member ∈ members, ∀ field ∈ format.fields,
      Decides field.read (tokens member) (outcome field member)) :
    Decides format.read
      (.openObject :: entryTokens (members.map fun member => (key member, tokens member)))
      (format.gathered key outcome [] format.blank members) := by
  intro rest
  cases members with
  | nil => exact finish_map [] format.blank rest
  | cons member members =>
      have unclosed (left : Tape) : Tape.push (entryTokens ((member :: members).map
          fun member => (key member, tokens member))) rest ≠ .token .closeObject left := by
        cases members <;> simp [entryTokens, List.intercalate_cons_cons]
      rw [Tape.push_cons, read_open unclosed]
      apply readMembers_decides shaped decides (List.cons_ne_nil member members)
      have longer := entryTokens_length ((member :: members).map
        fun member => (key member, tokens member))
      rw [List.length_map] at longer
      rw [Tape.push_length]
      omega

end RecordFormat

end

/-- An error of the wrong type depends on the head of a tape alone. -/
theorem Tape.unfit_token (head : Token) (expected : Expected) (rest : Tape) :
    (Tape.token head rest).unfit expected = (Tape.token head .finished).unfit expected := by
  cases head with
  | text content => cases content <;> rfl
  | null | boolean | number | openList | closeList | openObject | closeObject | comma | colon => rfl

namespace Decides

variable {reader : Reader α} {tokens : List Token}

/-- A reader that the head does not fit refuses the whole value. -/
theorem unfit {head : Token} {expected : Expected}
    (refused : ∀ rest, reader (.token head rest) =
      .error ((Tape.token head rest).unfit expected)) (others : List Token) :
    Decides reader (head :: others) (.error ((Tape.token head .finished).unfit expected)) :=
  fun _ => (refused _).trans (congrArg Except.error (Tape.unfit_token head expected _))

theorem mapped {outcome : Except ReadError α} (decides : Decides reader tokens outcome)
    (convert : α → β) : Decides (readMapped convert reader) tokens (outcome.map convert) := by
  intro rest
  rw [readMapped, decides rest]
  cases outcome <;> rfl

/-- A value that does not start with null is there. -/
theorem optional {outcome : Except ReadError α} (decides : Decides reader tokens outcome)
    (present : ∃ head ∈ tokens.head?, head ≠ .null) :
    Decides (readOptional reader) tokens (outcome.map some) := by
  obtain ⟨head, isHead, notNull⟩ := present
  obtain ⟨others, rfl⟩ := List.head?_eq_some_iff.mp isHead
  intro rest
  have notAbsent (left : Tape) : Tape.push (head :: others) rest ≠ .token .null left := by
    intro same
    exact notNull (Tape.token.inj same).1
  rw [readOptional_present notAbsent]
  exact decides.mapped some rest

end Decides

/-- A reader makes the same of a value wherever the value stands. -/
theorem Composed.decided {reader : Reader α} (composed : Composed reader) {tokens : List Token}
    (shaped : Shaped tokens) : ∃ outcome, Decides reader tokens outcome := by
  induction composed generalizing tokens with
  | text =>
      cases shaped with
      | @scalar head isScalar =>
          cases head with
          | text content =>
              cases content with
              | none => exact ⟨.error (.grammar .malformed), fun _ => rfl⟩
              | some content => exact ⟨.ok content, fun _ => rfl⟩
          | null | boolean | number => exact ⟨_, .unfit (fun _ => rfl) []⟩
          | openList | closeList | openObject | closeObject | comma | colon => cases isScalar
      | list | object => exact ⟨_, .unfit (fun _ => rfl) _⟩
  | boolean =>
      cases shaped with
      | @scalar head isScalar =>
          cases head with
          | boolean value => exact ⟨.ok value, fun _ => rfl⟩
          | null | text | number => exact ⟨_, .unfit (fun _ => rfl) []⟩
          | openList | closeList | openObject | closeObject | comma | colon => cases isScalar
      | list | object => exact ⟨_, .unfit (fun _ => rfl) _⟩
  | number =>
      cases shaped with
      | @scalar head isScalar =>
          cases head with
          | number numeral =>
              refine ⟨(numeral.value?.map Except.ok).getD (.error (.grammar .malformed)), ?_⟩
              intro rest
              rw [Tape.push_cons, Tape.push_nil, readNumber]
              cases numeral.value? <;> rfl
          | null | text | boolean => exact ⟨_, .unfit (fun _ => rfl) []⟩
          | openList | closeList | openObject | closeObject | comma | colon => cases isScalar
      | list | object => exact ⟨_, .unfit (fun _ => rfl) _⟩
  | mapped _ ih =>
      obtain ⟨outcome, decides⟩ := ih shaped
      exact ⟨_, decides.mapped _⟩
  | optional _ ih =>
      by_cases absent : tokens = [.null]
      case pos =>
          subst absent
          exact ⟨.ok none, fun _ => rfl⟩
      case neg =>
          obtain ⟨outcome, decides⟩ := ih shaped
          refine ⟨_, decides.optional ?_⟩
          cases shaped with
          | @scalar head isScalar => exact ⟨head, rfl, by simpa using absent⟩
          | list | object => exact ⟨_, rfl, Token.noConfusion⟩
  | @list γ reader _ ih =>
      cases shaped with
      | @scalar head isScalar =>
          cases head with
          | null | boolean | number | text => exact ⟨_, .unfit (fun _ => rfl) []⟩
          | openList | closeList | openObject | closeObject | comma | colon => cases isScalar
      | @list items shaped =>
          have : Nonempty (Except ReadError γ) := ⟨.error (.grammar .ended)⟩
          choose! outcome decides using fun item isItem => ih (shaped item isItem)
          have list : Decides _ (.openList :: listTokens (items.map id)) (items.mapM outcome) :=
            .list shaped decides
          rw [List.map_id] at list
          exact ⟨_, list⟩
      | object => exact ⟨_, .unfit (fun _ => rfl) _⟩
  | @record γ format _ ih =>
      have : Nonempty (Except ReadError (γ → γ)) := ⟨.ok id⟩
      choose! outcome decides using fun field isField part (shaped : Shaped part) =>
        ih field isField shaped
      cases shaped with
      | @scalar head isScalar =>
          cases head with
          | null | boolean | number | text => exact ⟨_, .unfit (fun _ => rfl) []⟩
          | openList | closeList | openObject | closeObject | comma | colon => cases isScalar
      | @list items shaped =>
          have list : Decides format.read (.openList :: listTokens (items.map id)) _ :=
            RecordFormat.read_list shaped fun field isField item isItem =>
              decides field isField item (shaped item isItem)
          rw [List.map_id] at list
          exact ⟨_, list⟩
      | @object entries shaped =>
          have object : Decides format.read
              (.openObject :: entryTokens (entries.map fun entry => (entry.1, entry.2))) _ :=
            RecordFormat.read_entries shaped fun entry isEntry field isField =>
              decides field isField entry.2 (shaped entry isEntry)
          rw [List.map_id'] at object
          exact ⟨_, object⟩

/-- What comes of tokens is decoded where nothing else stands in the text. -/
theorem Decides.decoded {reader : Reader α} {tokens : List Token} {outcome : Except ReadError α}
    (decides : Decides reader tokens outcome) {text : String}
    (scanned : scan text.toList = Tape.push tokens .finished) : decode reader text = outcome := by
  rw [decode, scanned, decides]
  cases outcome <;> rfl

/-- A value is read or refused anywhere as it is when it stands alone. -/
theorem IsValue.decides {reader : Reader α} (composed : Composed reader)
    {lexemes : List (List Char)} {text : List Char} (isValue : IsValue lexemes text) :
    Decides reader (lexemes.map lexemeToken) (decode reader (String.ofList text)) := by
  obtain ⟨scans, shaped⟩ := isValue.scanned
  obtain ⟨outcome, decides⟩ := composed.decided shaped
  rwa [decides.decoded (by rw [String.toList_ofList, scans.alone])]

end CourseAdvisor.Json
