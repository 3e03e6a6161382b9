/-
This file proves which values readers take and which they refuse, wherever their tokens stand.
-/

import CourseAdvisor.Proofs.Json.Members
import CourseAdvisor.Proofs.Json.PrettyText
import CourseAdvisor.Proofs.Json.Skipping

namespace CourseAdvisor.Json

variable {α β : Type}

mutual

/-- Every value is skipped as a whole. -/
theorem tokens_pass (value : Json) : Passes value.tokens := by
  match value with
  | .list items =>
      rw [tokens, listTokens_eq]
      exact .list (tokensOfItems_pass items)
  | .object members =>
      rw [tokens, objectTokens_eq]
      have passes : ∀ entry ∈ (tokensOfMembers members).map
          fun member => (some member.1, member.2), Passes entry.2 := by
        rw [List.forall_mem_map]
        exact tokensOfMembers_pass members
      have object := Passes.object passes
      rwa [List.map_map] at object
  | .null | .boolean _ | .text _ => exact .scalar rfl
  | .integer _ | .number _ => exact .scalar (numeralToken_isScalar _)

theorem tokensOfItems_pass (items : List Json) : ∀ item ∈ tokensOfItems items, Passes item := by
  match items with
  | [] => simp [tokensOfItems]
  | item :: rest =>
      rw [tokensOfItems, List.forall_mem_cons]
      exact ⟨tokens_pass item, tokensOfItems_pass rest⟩

theorem tokensOfMembers_pass (members : List (String × Json)) :
    ∀ member ∈ tokensOfMembers members, Passes member.2 := by
  match members with
  | [] => simp [tokensOfMembers]
  | (key, value) :: rest =>
      rw [tokensOfMembers, List.forall_mem_cons]
      exact ⟨tokens_pass value, tokensOfMembers_pass rest⟩

end

theorem tokens_skip (value : Json) : Skips value.tokens :=
  fun rest => (value.tokens_pass rfl [] rest).trans (skipFrom_done rest)

/-- A reader refuses these tokens, whatever follows them. -/
def Refuses (reader : Reader α) (tokens : List Token) : Prop :=
  ∀ rest, ∃ error, reader (Tape.push tokens rest) = .error error

theorem Refuses.mapped (convert : α → β) {reader : Reader α} {tokens : List Token}
    (refuses : Refuses reader tokens) : Refuses (readMapped convert reader) tokens := by
  intro rest
  obtain ⟨error, refused⟩ := refuses rest
  refine ⟨error, ?_⟩
  rw [readMapped, refused]
  rfl

/-- No reader that asks for something else takes a number or null. -/
theorem Refuses.numeral {reader : Reader α} (text : List Char)
    (number : ∀ numeral, Refuses reader [.number numeral]) (null : Refuses reader [.null]) :
    Refuses reader [numeralToken text] := by
  rcases numeralToken_cases text with ⟨numeral, same⟩ | same
  · exact same ▸ number numeral
  · exact same ▸ null

/-- Only text is read as text. -/
theorem Refuses.text {value : Json} (other : value.isText = false) :
    Refuses readText value.tokens := by
  cases value with
  | text content => cases other
  | integer | number => exact .numeral _ (fun _ _ => ⟨_, rfl⟩) fun _ => ⟨_, rfl⟩
  | null | boolean | list | object => exact fun _ => ⟨_, rfl⟩

/-- Only lists are read as lists. -/
theorem Refuses.list {reader : Reader α} {value : Json} (other : ∀ items, value ≠ .list items) :
    Refuses (readList reader) value.tokens := by
  cases value with
  | list items => exact absurd rfl (other items)
  | integer | number => exact .numeral _ (fun _ _ => ⟨_, rfl⟩) fun _ => ⟨_, rfl⟩
  | null | boolean | text | object => exact fun _ => ⟨_, rfl⟩

/-- Only objects and lists are read as records. -/
theorem Refuses.record {format : RecordFormat α} {value : Json}
    (noList : ∀ items, value ≠ .list items) (noObject : ∀ members, value ≠ .object members) :
    Refuses format.read value.tokens := by
  cases value with
  | list items => exact absurd rfl (noList items)
  | object members => exact absurd rfl (noObject members)
  | integer | number => exact .numeral _ (fun _ _ => ⟨_, rfl⟩) fun _ => ⟨_, rfl⟩
  | null | boolean | text => exact fun _ => ⟨_, rfl⟩

/-- Items are read up to the first that is refused. -/
theorem readItems_refused {reader : Reader α} {items : List (List Token)}
    (decided : ∀ item ∈ items, (∃ value, Reads reader item value) ∨ Refuses reader item)
    {bad : List Token} (isItem : bad ∈ items) (refuses : Refuses reader bad) (fuel : Nat)
    (rest : Tape) :
    ∃ error, readItems reader fuel (Tape.push (listTokens items) rest) = .error error := by
  induction items generalizing fuel with
  | nil => cases isItem
  | cons item items ih =>
      obtain ⟨after, tokens⟩ : ∃ after,
          Tape.push (listTokens (item :: items)) rest = Tape.push item after := by
        cases items <;> simp [listTokens]
      cases fuel with
      | zero => exact ⟨_, rfl⟩
      | succ fuel =>
          rcases decided item List.mem_cons_self with ⟨value, reads⟩ | refusesFirst
          case inr =>
              obtain ⟨error, refused⟩ := refusesFirst after
              exact ⟨error, by simp [tokens, readItems, refused, bind, Except.bind]⟩
          case inl =>
              rcases List.mem_cons.mp isItem with rfl | later
              · obtain ⟨error, refused⟩ := refuses after
                exact ⟨error, by simp [tokens, readItems, refused, bind, Except.bind]⟩
              · obtain ⟨error, others⟩ := ih
                  (fun other member => decided other (List.mem_cons_of_mem item member)) later fuel
                obtain ⟨next, further, rfl⟩ :=
                  List.exists_cons_of_ne_nil (List.ne_nil_of_mem later)
                exact ⟨error, by simp [listTokens, readItems, reads _, bind, Except.bind, others]⟩

/-- A list is refused with any of its items. -/
theorem Refuses.item {reader : Reader α} {items : List (List Token)}
    (decided : ∀ item ∈ items, (∃ value, Reads reader item value) ∨ Refuses reader item)
    (started : ∀ item ∈ items.head?, ∃ head ∈ item.head?, head ≠ .closeList)
    {bad : List Token} (isItem : bad ∈ items) (refuses : Refuses reader bad) :
    Refuses (readList reader) (.openList :: listTokens items) := by
  intro rest
  obtain ⟨first, others, rfl⟩ := List.exists_cons_of_ne_nil (List.ne_nil_of_mem isItem)
  obtain ⟨head, isHead, notClose⟩ := started first rfl
  obtain ⟨left, same⟩ := List.head?_eq_some_iff.mp (listTokens_head isHead others)
  obtain ⟨error, refused⟩ := readItems_refused decided isItem refuses
    ((Tape.push (listTokens (first :: others)) rest).length + 1) rest
  have unclosed (after : Tape) :
      Tape.push (listTokens (first :: others)) rest ≠ .token .closeList after := by
    rw [same, Tape.push_cons]
    intro closed
    exact notClose (Tape.token.inj closed).1
  exact ⟨error, (readList_open unclosed).trans refused⟩

namespace RecordFormat

variable {format : RecordFormat α}

/-- A member is refused when its key is known and its value is refused. -/
def RefusesMember (format : RecordFormat α) (member : String × List Token) : Prop :=
  ∃ field, format.field? member.1 = some field ∧ Refuses field.read member.2

/-- A required field refuses what its reader refuses. -/
theorem refusesMember_required {key : String} {reader : Reader β} {set : β → α → α}
    {tokens : List Token} (known : format.field? key = some (.required key reader set))
    (refuses : Refuses reader tokens) : format.RefusesMember (key, tokens) :=
  ⟨_, known, refuses.mapped set⟩

theorem readMember_refused {member : String × List Token} (refuses : format.RefusesMember member)
    (seen : List String) (rest : Tape) :
    ∃ error, format.readMember seen member.1 (.token .colon (Tape.push member.2 rest)) =
      .error error := by
  obtain ⟨field, known, refusesValue⟩ := refuses
  obtain ⟨error, refused⟩ := refusesValue rest
  rw [readMember, known]
  by_cases old : seen.contains member.1 = true
  · exact ⟨.misfit (.duplicateField member.1), by simp only [old, reduceIte]; rfl⟩
  · exact ⟨error, by simp only [old]; simp [readColon, refused, bind, Except.bind]⟩

/-- Members are read up to the first that is refused or that comes again. -/
theorem readMembers_refused {members : List (String × List Token)}
    (decided : ∀ member ∈ members,
      (∃ update, format.ReadsMember member update) ∨ format.RefusesMember member)
    {bad : String × List Token} (isMember : bad ∈ members) (refuses : format.RefusesMember bad)
    (fuel : Nat) (seen : List String) (record : α) (rest : Tape) :
    ∃ error, format.readMembers fuel seen record (Tape.push (objectTokens members) rest) =
      .error error := by
  induction members generalizing fuel seen record with
  | nil => cases isMember
  | cons member members ih =>
      obtain ⟨key, value⟩ := member
      obtain ⟨after, tokens⟩ : ∃ after, Tape.push (objectTokens ((key, value) :: members)) rest =
          .token (.text (some key)) (.token .colon (Tape.push value after)) := by
        cases members <;> simp [objectTokens]
      have stopped {error : ReadError}
          (fails : format.readMember seen key (.token .colon (Tape.push value after)) =
            .error error) (fuel : Nat) :
          format.readMembers (fuel + 1) seen record
            (Tape.push (objectTokens ((key, value) :: members)) rest) = .error error := by
        rw [tokens, readMembers, fails]
        rfl
      cases fuel with
      | zero => exact ⟨_, rfl⟩
      | succ fuel =>
          rcases decided (key, value) List.mem_cons_self with ⟨update, reads⟩ | refusesFirst
          case inr =>
              obtain ⟨error, refused⟩ := readMember_refused refusesFirst seen after
              exact ⟨error, stopped refused fuel⟩
          case inl =>
              rcases List.mem_cons.mp isMember with rfl | later
              · obtain ⟨error, refused⟩ := readMember_refused refuses seen after
                exact ⟨error, stopped refused fuel⟩
              · by_cases old : format.isKnown key = true ∧ key ∈ seen
                case pos => exact ⟨_, stopped (readMember_repeated old.1 old.2 _) fuel⟩
                case neg =>
                    have taken := readMember_reads reads (not_and.mp old)
                    obtain ⟨error, others⟩ := ih
                      (fun other member => decided other (List.mem_cons_of_mem _ member)) later
                      fuel (format.remembered key seen) (update record)
                    obtain ⟨next, further, rfl⟩ :=
                      List.exists_cons_of_ne_nil (List.ne_nil_of_mem later)
                    exact ⟨error, by
                      simp [objectTokens, readMembers, taken, bind, Except.bind, others]⟩

end RecordFormat

/-- An object is refused with any of its members. -/
theorem Refuses.member {format : RecordFormat α} {members : List (String × List Token)}
    (decided : ∀ member ∈ members,
      (∃ update, format.ReadsMember member update) ∨ format.RefusesMember member)
    {bad : String × List Token} (isMember : bad ∈ members) (refuses : format.RefusesMember bad) :
    Refuses format.read (.openObject :: objectTokens members) := by
  intro rest
  obtain ⟨first, others, rfl⟩ := List.exists_cons_of_ne_nil (List.ne_nil_of_mem isMember)
  obtain ⟨error, refused⟩ := RecordFormat.readMembers_refused decided isMember refuses
    ((Tape.push (objectTokens (first :: others)) rest).length + 1) [] format.blank rest
  refine ⟨error, ?_⟩
  rw [← refused, Tape.push_cons]
  obtain ⟨key, value⟩ := first
  cases others <;> rfl

/-- An object is refused when a field without a default is missing. -/
theorem Refuses.incomplete {format : RecordFormat α} {members : List (String × List Token)}
    {updates : List (α → α)} (reads : List.Forall₂ format.ReadsMember members updates)
    {field : Field α} (isField : field ∈ format.fields) (needed : field.hasDefault = false)
    (absent : field.key ∉ members.map Prod.fst) :
    Refuses format.read (.openObject :: objectTokens members) := by
  intro rest
  rw [RecordFormat.read_object reads, RecordFormat.settled]
  split
  case h_1 => exact ⟨_, rfl⟩
  case h_2 =>
      rw [RecordFormat.finish]
      cases found : format.missing? ((format.knownKeys members).reverse ++ []) with
      | some missing => exact ⟨_, rfl⟩
      | none =>
          have seen := List.find?_eq_none.mp found field isField
          simp only [needed, Bool.not_false, List.append_nil, List.contains_reverse,
            Bool.true_and, Bool.not_eq_true, Bool.not_eq_false', List.contains_iff_mem] at seen
          exact absurd (List.mem_filter.mp seen).1 absent

/-- An object is refused with any of its members and without any field that it must give. -/
theorem Refuses.object {format : RecordFormat α} {members : List (String × List Token)}
    (decided : ∀ member ∈ members,
      (∃ update, format.ReadsMember member update) ∨ format.RefusesMember member)
    (faulty : (∃ member ∈ members, format.RefusesMember member) ∨
      ∃ field ∈ format.fields, field.hasDefault = false ∧ field.key ∉ members.map Prod.fst) :
    Refuses format.read (.openObject :: objectTokens members) := by
  by_cases refused : ∃ member ∈ members, format.RefusesMember member
  case pos =>
      obtain ⟨member, isMember, refuses⟩ := refused
      exact .member decided isMember refuses
  case neg =>
      obtain ⟨field, isField, needed, absent⟩ := faulty.resolve_left refused
      have : Nonempty (α → α) := ⟨id⟩
      choose! update reads using fun member isMember =>
        (decided member isMember).resolve_right fun refuses => refused ⟨member, isMember, refuses⟩
      have all : List.Forall₂ format.ReadsMember members (members.map update) := by
        rw [List.forall₂_map_right_iff, List.forall₂_same]
        exact reads
      exact .incomplete all isField needed absent

/-- An object with distinct keys reads as the updates under its keys when it is complete. -/
theorem Reads.members {format : RecordFormat α} {members : List (String × Json)}
    {update : String → α → α} (distinct : (members.map Prod.fst).Nodup)
    (reads : ∀ member ∈ members,
      format.ReadsMember (member.1, member.2.tokens) (update member.1))
    (complete : ∀ field ∈ format.fields, field.hasDefault = false →
      field.key ∈ members.map Prod.fst) :
    Reads format.read (Json.object members).tokens
      (revised ((members.map Prod.fst).map update) format.blank) := by
  have all : List.Forall₂ format.ReadsMember (tokensOfMembers members)
      ((members.map Prod.fst).map update) := by
    rw [tokensOfMembers_map, List.map_map, List.forall₂_map_left_iff,
      List.forall₂_map_right_iff, List.forall₂_same]
    exact reads
  rw [← tokensOfMembers_keys] at distinct complete
  exact .object all (.filter _ distinct) complete

/-- An object with a faulty member or without a field that it must give is refused. -/
theorem Refuses.members {format : RecordFormat α} {members : List (String × Json)}
    (decided : ∀ member ∈ members,
      (∃ update, format.ReadsMember (member.1, member.2.tokens) update) ∨
        format.RefusesMember (member.1, member.2.tokens))
    (faulty : (∃ member ∈ members, format.RefusesMember (member.1, member.2.tokens)) ∨
      ∃ field ∈ format.fields, field.hasDefault = false ∧ field.key ∉ members.map Prod.fst) :
    Refuses format.read (Json.object members).tokens := by
  rw [← tokensOfMembers_keys] at faulty
  apply Refuses.object
  case decided =>
      rw [tokensOfMembers_map, List.forall_mem_map]
      exact decided
  case faulty =>
      refine faulty.imp_left ?_
      rintro ⟨member, isMember, refuses⟩
      rw [tokensOfMembers_map]
      exact ⟨_, List.mem_map_of_mem isMember, refuses⟩

/-- A value that is refused is not decoded. -/
theorem Refuses.not_decoded {reader : Reader α} {value : Json}
    (refuses : Refuses reader value.tokens) {text : String}
    (scanned : scan text.toList = Tape.push value.tokens .finished) (result : α) :
    decode reader text ≠ .ok result := by
  intro decoded
  obtain ⟨error, refused⟩ := refuses .finished
  rw [decode_eq_ok, scanned, refused] at decoded
  cases decoded

end CourseAdvisor.Json
