/-
This file proves that the shape check and the reader of responses accept the same objects.
-/

import CourseAdvisor.Proofs.Json.Refusing
import CourseAdvisor.Recommendation.Response

namespace CourseAdvisor

open Json RecordFormat

/-- No object in the value has two members with one key. -/
inductive Json.HasDistinctKeys : Json → Prop
  | null : HasDistinctKeys .null
  | boolean (value : Bool) : HasDistinctKeys (.boolean value)
  | integer (value : Int) : HasDistinctKeys (.integer value)
  | number (value : Double) : HasDistinctKeys (.number value)
  | text (content : String) : HasDistinctKeys (.text content)
  | list {items : List Json} (each : ∀ item ∈ items, HasDistinctKeys item) :
      HasDistinctKeys (.list items)
  | object {members : List (String × Json)} (distinct : (members.map Prod.fst).Nodup)
      (each : ∀ member ∈ members, HasDistinctKeys member.2) : HasDistinctKeys (.object members)

/-- With distinct keys, every member is found under its key. -/
theorem Json.lookup_eq_some {members : List (String × Json)}
    (distinct : (members.map Prod.fst).Nodup) {key : String} {value : Json} :
    members.lookup key = some value ↔ (key, value) ∈ members := by
  induction members with
  | nil => simp
  | cons member members ih =>
      obtain ⟨other, found⟩ := member
      rw [List.map_cons, List.nodup_cons] at distinct
      rw [List.lookup_cons, List.mem_cons, Prod.mk.injEq]
      by_cases same : key = other
      · subst same
        have absent : (key, value) ∉ members := fun later =>
          distinct.1 (List.mem_map.mpr ⟨_, later, rfl⟩)
        simp [absent, eq_comm]
      · have different : (key == other) = false := by simpa using same
        simp [different, same, ih distinct.2]

/-- A key that is not found is not the key of a member. -/
theorem Json.lookup_eq_none {members : List (String × Json)} {key : String} :
    members.lookup key = none ↔ key ∉ members.map Prod.fst := by
  simp only [List.lookup_eq_none_iff, List.mem_map, not_exists, not_and, bne_iff_ne]
  exact ⟨fun others member isMember same => others member isMember same.symm,
    fun others member isMember same => others member isMember same.symm⟩

/-- A key that is found is the key of a member. -/
theorem Json.mem_keys_of_lookup {members : List (String × Json)} {key : String} {value : Json}
    (found : members.lookup key = some value) : key ∈ members.map Prod.fst := by
  by_contra absent
  rw [Json.lookup_eq_none.mpr absent] at found
  cases found

/-- Where text is required, the text that is found is read. -/
theorem Json.RecordFormat.readsText {α : Type} (format : RecordFormat α)
    {members : List (String × Json)} {key content : String} {value : Json} {set : String → α → α}
    (known : format.field? key = some (.required key readText set))
    (found : members.lookup key = some value) (stands : members.lookup key = some (.text content)) :
    format.ReadsMember (key, value.tokens) (set content) := by
  rw [Option.some.inj (found.symm.trans stands)]
  exact readsMember_required known (.text content)

theorem Json.isText_iff {value : Json} :
    value.isText = true ↔ ∃ content, value = .text content := by
  cases value <;> simp [isText]

namespace Recommendation

/-- An entry holds the texts of a recommendation under their keys, and may hold more. -/
structure StandsIn (recommendation : Recommendation) (entry : Json) : Prop where
  courseId : entry.member? "courseId" = some (.text recommendation.courseId.text)
  title : entry.member? "title" = some (.text recommendation.title)
  reason : entry.member? "reason" = some (.text recommendation.reason)

/-- This copies what stands under a key. -/
def copy (source : Recommendation) (key : String) (target : Recommendation) : Recommendation :=
  if key = "courseId" then { target with courseId := source.courseId }
  else if key = "title" then { target with title := source.title }
  else if key = "reason" then { target with reason := source.reason }
  else target

theorem revised_copy (source : Recommendation) (keys : List String) (target : Recommendation) :
    revised (keys.map source.copy) target =
      ⟨if "courseId" ∈ keys then source.courseId else target.courseId,
        if "title" ∈ keys then source.title else target.title,
        if "reason" ∈ keys then source.reason else target.reason⟩ := by
  induction keys generalizing target with
  | nil => rfl
  | cons key keys ih =>
      rw [List.map_cons, revised, List.foldl_cons]
      refine (ih _).trans ?_
      by_cases isCourseId : key = "courseId"
      · simp [copy, isCourseId]
      · by_cases isTitle : key = "title"
        · simp [copy, isTitle]
        · by_cases isReason : key = "reason"
          · simp [copy, isReason]
          · simp [copy, isCourseId, isTitle, isReason, eq_comm (b := key)]

/-- A key is that of a text field or of none. -/
theorem field?_cases (key : String) :
    (key ∈ Response.requiredKeys ∧ ∃ set, format.field? key = some (.required key readText set)) ∨
      (key ∉ Response.requiredKeys ∧ format.field? key = none) := by
  by_cases isCourseId : key = "courseId"
  · subst isCourseId
    exact .inl ⟨by decide, _, rfl⟩
  · by_cases isTitle : key = "title"
    · subst isTitle
      exact .inl ⟨by decide, _, rfl⟩
    · by_cases isReason : key = "reason"
      · subst isReason
        exact .inl ⟨by decide, _, rfl⟩
      · refine .inr ⟨?_, ?_⟩
        · simp [Response.requiredKeys, isCourseId, isTitle, isReason]
        · simp [field?, format, Field.required, eq_comm (b := key), isCourseId, isTitle, isReason]

/-- A value other than text is refused under a required key. -/
theorem refusesMember {key : String} (isRequired : key ∈ Response.requiredKeys) {value : Json}
    (other : value.isText = false) : format.RefusesMember (key, value.tokens) := by
  rcases field?_cases key with ⟨_, set, known⟩ | ⟨notRequired, _⟩
  · exact refusesMember_required known (.text other)
  · exact absurd isRequired notRequired

/-- Every member is read or refused. -/
theorem member_decided (key : String) (value : Json) :
    (∃ update, format.ReadsMember (key, value.tokens) update) ∨
      format.RefusesMember (key, value.tokens) := by
  rcases field?_cases key with ⟨isRequired, set, known⟩ | ⟨_, unknown⟩
  case inr =>
      refine .inl ⟨id, ?_⟩
      rw [ReadsMember, unknown]
      exact ⟨rfl, value.tokens_skip⟩
  case inl =>
      cases shape : value.isText with
      | false => exact .inr (refusesMember isRequired shape)
      | true =>
          obtain ⟨content, rfl⟩ := Json.isText_iff.mp shape
          exact .inl ⟨_, readsMember_required known (.text content)⟩

/-- A member of an entry is read as the text that stands under its key. -/
theorem StandsIn.readsMember {recommendation : Recommendation} {members : List (String × Json)}
    (stands : recommendation.StandsIn (.object members)) (distinct : (members.map Prod.fst).Nodup)
    {key : String} {value : Json} (isMember : (key, value) ∈ members) :
    format.ReadsMember (key, value.tokens) (recommendation.copy key) := by
  have found := (Json.lookup_eq_some distinct).mpr isMember
  rcases field?_cases key with ⟨isRequired, _⟩ | ⟨notRequired, unknown⟩
  case inr =>
      simp only [Response.requiredKeys, List.mem_cons, List.not_mem_nil, or_false, not_or]
        at notRequired
      rw [ReadsMember, unknown]
      refine ⟨funext fun target => ?_, value.tokens_skip⟩
      simp [copy, notRequired]
  case inl =>
      simp only [Response.requiredKeys, List.mem_cons, List.not_mem_nil, or_false] at isRequired
      rcases isRequired with rfl | rfl | rfl
      · have reads := format.readsText rfl found stands.courseId
        exact reads
      · have reads := format.readsText rfl found stands.title
        exact reads
      · have reads := format.readsText rfl found stands.reason
        exact reads

/-- An entry is read as the recommendation that stands in it. -/
theorem StandsIn.reads {recommendation : Recommendation} {entry : Json}
    (stands : recommendation.StandsIn entry) (distinct : entry.HasDistinctKeys) :
    Reads format.read entry.tokens recommendation := by
  cases distinct with
  | null | boolean | integer | number | text | list => cases stands.courseId
  | @object members distinct _ =>
      have courseId := Json.mem_keys_of_lookup stands.courseId
      have title := Json.mem_keys_of_lookup stands.title
      have reason := Json.mem_keys_of_lookup stands.reason
      have complete : ∀ field ∈ format.fields, field.hasDefault = false →
          field.key ∈ members.map Prod.fst := by
        simp only [format, Field.required, List.forall_mem_cons]
        exact ⟨fun _ => courseId, fun _ => title, fun _ => reason, by simp⟩
      have object := Reads.members distinct
        (fun member isMember => stands.readsMember distinct isMember) complete
      rwa [revised_copy, if_pos courseId, if_pos title, if_pos reason] at object

/-- An entry in which no recommendation stands is refused, unless it is a list. -/
theorem refuses_entry {entry : Json} (distinct : entry.HasDistinctKeys)
    (noList : ∀ items, entry ≠ .list items)
    (nothing : ¬∃ recommendation : Recommendation, recommendation.StandsIn entry) :
    Refuses format.read entry.tokens := by
  cases distinct with
  | null | boolean | integer | number | text => exact .record noList fun _ => Json.noConfusion
  | list => exact absurd rfl (noList _)
  | @object members distinct _ =>
      refine .members (fun member _ => member_decided member.1 member.2) ?_
      by_contra faultless
      rw [not_or] at faultless
      have given (key : String) (isRequired : key ∈ Response.requiredKeys) :
          ∃ content, members.lookup key = some (.text content) := by
        cases found : members.lookup key with
        | none =>
            rw [Json.lookup_eq_none] at found
            rcases field?_cases key with ⟨_, set, known⟩ | ⟨notRequired, _⟩
            · exact absurd ⟨_, List.mem_of_find?_eq_some known, rfl, found⟩ faultless.2
            · exact absurd isRequired notRequired
        | some value =>
            cases shape : value.isText with
            | true =>
                obtain ⟨content, rfl⟩ := Json.isText_iff.mp shape
                exact ⟨content, rfl⟩
            | false =>
                have isMember := (Json.lookup_eq_some distinct).mp found
                exact absurd ⟨_, isMember, refusesMember isRequired shape⟩ faultless.1
      obtain ⟨id, courseId⟩ := given "courseId" (by decide)
      obtain ⟨title, isTitle⟩ := given "title" (by decide)
      obtain ⟨reason, isReason⟩ := given "reason" (by decide)
      exact nothing ⟨⟨⟨id⟩, title, reason⟩, courseId, isTitle, isReason⟩

end Recommendation

namespace Response

/-- Each entry holds the recommendation at its place. -/
abbrev EntriesHold (entries : List Json) (recommendations : List Recommendation) : Prop :=
  List.Forall₂ (fun entry recommendation => recommendation.StandsIn entry) entries recommendations

/-- A value holds the status of a response and one entry for each of its recommendations, in
order, and may hold more. -/
structure StandsIn (response : Response) (value : Json) : Prop where
  status : value.member? "status" = some (.text response.status)
  recommendations : ∃ entries, value.member? "recommendations" = some (.list entries) ∧
    EntriesHold entries response.recommendations

/-- A recommendation stands in an object with a text under every required key. -/
theorem standsIn_iff {entry : Json} :
    (∃ recommendation : Recommendation, recommendation.StandsIn entry) ↔
      ∃ fields, entry = .object fields ∧
        ∀ key ∈ requiredKeys, ∃ content, fields.lookup key = some (.text content) := by
  simp only [requiredKeys, List.forall_mem_cons]
  constructor
  · rintro ⟨recommendation, courseId, title, reason⟩
    cases entry with
    | null | boolean | integer | number | text | list => cases courseId
    | object fields => exact ⟨fields, rfl, ⟨_, courseId⟩, ⟨_, title⟩, ⟨_, reason⟩, by simp⟩
  · rintro ⟨fields, rfl, ⟨id, courseId⟩, ⟨title, isTitle⟩, ⟨reason, isReason⟩, _⟩
    exact ⟨⟨⟨id⟩, title, reason⟩, courseId, isTitle, isReason⟩

/-- Entries hold recommendations when one stands in each of them. -/
theorem entriesHold_iff {entries : List Json} :
    (∃ recommendations, EntriesHold entries recommendations) ↔
      ∀ entry ∈ entries, ∃ recommendation : Recommendation, recommendation.StandsIn entry := by
  induction entries with
  | nil => exact ⟨fun _ => by simp, fun _ => ⟨[], .nil⟩⟩
  | cons entry entries ih =>
      rw [List.forall_mem_cons, ← ih]
      constructor
      · rintro ⟨_, hold⟩
        cases hold with
        | cons first others => exact ⟨⟨_, first⟩, _, others⟩
      · rintro ⟨⟨recommendation, first⟩, recommendations, others⟩
        exact ⟨recommendation :: recommendations, .cons first others⟩

theorem entryViolation?_eq_none {index : Nat} {entry : Json} :
    entryViolation? index entry = none ↔
      ∃ recommendation : Recommendation, recommendation.StandsIn entry := by
  rw [standsIn_iff]
  cases entry with
  | null | boolean | integer | number | text | list =>
      refine iff_of_false (Option.some_ne_none _) ?_
      rintro ⟨fields, same, _⟩
      cases same
  | object members =>
      have isText {key : String} : (members.lookup key).any Json.isText = true ↔
          ∃ content, members.lookup key = some (.text content) := by
        cases members.lookup key with
        | none => simp
        | some value => simp [Json.isText_iff]
      rw [entryViolation?, Option.map_eq_none_iff, List.find?_eq_none]
      simp only [Bool.not_eq_true', Bool.not_eq_false, isText, Json.object.injEq, exists_eq_left']

theorem entriesViolation?_eq_none {index : Nat} {entries : List Json} :
    entriesViolation? index entries = none ↔
      ∃ recommendations, EntriesHold entries recommendations := by
  rw [entriesHold_iff]
  induction entries generalizing index with
  | nil => exact ⟨fun _ => by simp, fun _ => rfl⟩
  | cons entry entries ih =>
      rw [entriesViolation?, Option.orElse_eq_orElse, Option.orElse_eq_or, Option.or_eq_none_iff,
        entryViolation?_eq_none, ih, List.forall_mem_cons]

/-- The shape check lets objects through in which a list of recommendations stands. -/
theorem violation?_eq_none {value : Json} :
    violation? value = none ↔
      ∃ entries, value.member? "recommendations" = some (.list entries) ∧
        ∃ recommendations, EntriesHold entries recommendations := by
  cases value with
  | null | boolean | integer | number | text | list =>
      refine iff_of_false (Option.some_ne_none _) ?_
      rintro ⟨entries, found, _⟩
      cases found
  | object members =>
      rw [violation?, Json.member?]
      split
      case h_1 entries found =>
          rw [entriesViolation?_eq_none, found]
          constructor
          · exact fun hold => ⟨entries, rfl, hold⟩
          · rintro ⟨_, same, hold⟩
            cases same
            exact hold
      case h_2 other =>
          refine iff_of_false (Option.some_ne_none _) ?_
          rintro ⟨entries, found, _⟩
          exact absurd found (other entries)

/-- Entries are read as the recommendations that they hold. -/
theorem EntriesHold.reads {entries : List Json} {recommendations : List Recommendation}
    (hold : EntriesHold entries recommendations)
    (distinct : ∀ entry ∈ entries, entry.HasDistinctKeys) :
    Reads (readList Recommendation.format.read) (Json.list entries).tokens recommendations := by
  rw [tokens, tokensOfItems_map]
  apply Reads.list
  case reads =>
      induction hold with
      | nil => exact .nil
      | @cons entry _ entries _ first _ ih =>
          rw [List.forall_mem_cons] at distinct
          exact .cons (first.reads distinct.1) (ih distinct.2)
  case started =>
      intro item isFirst
      obtain ⟨entry, _, rfl⟩ := List.mem_map.mp (List.mem_of_mem_head? isFirst)
      exact tokens_head entry

/-- Entries that hold no recommendations are refused, unless one of them is a list. -/
theorem refuses_entries {entries : List Json}
    (distinct : ∀ entry ∈ entries, entry.HasDistinctKeys)
    (noLists : ∀ entry ∈ entries, ∀ items, entry ≠ .list items)
    (nothing : ¬∃ recommendations, EntriesHold entries recommendations) :
    Refuses (readList Recommendation.format.read) (Json.list entries).tokens := by
  have bad : ∃ entry ∈ entries,
      ¬∃ recommendation : Recommendation, recommendation.StandsIn entry := by
    simpa only [entriesHold_iff, not_forall, exists_prop] using nothing
  obtain ⟨entry, isEntry, holdsNothing⟩ := bad
  rw [tokens, tokensOfItems_map]
  refine Refuses.item ?decided ?started (List.mem_map_of_mem isEntry)
    (Recommendation.refuses_entry (distinct entry isEntry) (noLists entry isEntry) holdsNothing)
  case decided =>
      rw [List.forall_mem_map]
      intro other isOther
      by_cases stands : ∃ recommendation : Recommendation, recommendation.StandsIn other
      · obtain ⟨recommendation, stands⟩ := stands
        exact .inl ⟨recommendation, stands.reads (distinct other isOther)⟩
      · exact .inr (Recommendation.refuses_entry (distinct other isOther) (noLists other isOther)
          stands)
  case started =>
      intro item isFirst
      obtain ⟨other, _, rfl⟩ := List.mem_map.mp (List.mem_of_mem_head? isFirst)
      exact tokens_head other

/-- This copies what stands under a key. -/
def copy (source : Response) (key : String) (target : Response) : Response :=
  if key = "status" then { target with status := source.status }
  else if key = "recommendations" then { target with recommendations := source.recommendations }
  else target

theorem revised_copy (source : Response) (keys : List String) (target : Response) :
    revised (keys.map source.copy) target =
      ⟨if "status" ∈ keys then source.status else target.status,
        if "recommendations" ∈ keys then source.recommendations else target.recommendations⟩ := by
  induction keys generalizing target with
  | nil => rfl
  | cons key keys ih =>
      rw [List.map_cons, revised, List.foldl_cons]
      refine (ih _).trans ?_
      by_cases isStatus : key = "status"
      · simp [copy, isStatus]
      · by_cases isList : key = "recommendations"
        · simp [copy, isList]
        · simp [copy, isStatus, isList, eq_comm (b := key)]

theorem field?_unknown {key : String} (noStatus : key ≠ "status")
    (noList : key ≠ "recommendations") : format.field? key = none := by
  simp [field?, format, Field.required, eq_comm (b := key), noStatus, noList]

/-- A member of a response is read as what stands under its key. -/
theorem StandsIn.readsMember {response : Response} {members : List (String × Json)}
    (stands : response.StandsIn (.object members)) (distinct : (members.map Prod.fst).Nodup)
    {key : String} {value : Json} (isMember : (key, value) ∈ members)
    (valueDistinct : value.HasDistinctKeys) :
    format.ReadsMember (key, value.tokens) (response.copy key) := by
  have found := (Json.lookup_eq_some distinct).mpr isMember
  obtain ⟨entries, isList, hold⟩ := stands.recommendations
  by_cases isStatus : key = "status"
  case pos =>
      subst isStatus
      have reads := format.readsText rfl found stands.status
      exact reads
  case neg =>
      by_cases isRecommendations : key = "recommendations"
      case pos =>
          subst isRecommendations
          obtain rfl := Option.some.inj (found.symm.trans isList)
          cases valueDistinct with
          | list each =>
              have reads : format.ReadsMember ("recommendations", (Json.list entries).tokens) _ :=
                readsMember_required rfl (hold.reads each)
              exact reads
      case neg =>
          rw [ReadsMember, field?_unknown isStatus isRecommendations]
          refine ⟨funext fun target => ?_, value.tokens_skip⟩
          simp [copy, isStatus, isRecommendations]

/-- An object is read as the response that stands in it. -/
theorem StandsIn.reads {response : Response} {members : List (String × Json)}
    (stands : response.StandsIn (.object members))
    (distinct : (Json.object members).HasDistinctKeys) :
    Reads format.read (Json.object members).tokens response := by
  cases distinct with
  | object distinct each =>
      obtain ⟨entries, isList, _⟩ := stands.recommendations
      have status := Json.mem_keys_of_lookup stands.status
      have recommendations := Json.mem_keys_of_lookup isList
      have complete : ∀ field ∈ format.fields, field.hasDefault = false →
          field.key ∈ members.map Prod.fst := by
        simp only [format, Field.required, List.forall_mem_cons]
        exact ⟨fun _ => status, fun _ => recommendations, by simp⟩
      have object := Reads.members distinct (fun member isMember =>
        stands.readsMember distinct isMember (each member isMember)) complete
      rwa [revised_copy, if_pos status, if_pos recommendations] at object

/-- The value under `status` is refused when it is no text, and the value under `recommendations`
when it is no list of entries that hold recommendations. -/
theorem member_decided {key : String} {value : Json} (distinct : value.HasDistinctKeys)
    (noLists : key = "recommendations" → ∀ entries, value = .list entries →
      ∀ entry ∈ entries, ∀ items, entry ≠ .list items) :
    ((∃ update, format.ReadsMember (key, value.tokens) update) ∧
        (key = "status" → ∃ status, value = .text status) ∧
        (key = "recommendations" → ∃ entries, value = .list entries ∧
          ∃ recommendations, EntriesHold entries recommendations)) ∨
      format.RefusesMember (key, value.tokens) := by
  by_cases isStatus : key = "status"
  case pos =>
      subst isStatus
      cases shape : value.isText with
      | true =>
          obtain ⟨content, rfl⟩ := Json.isText_iff.mp shape
          exact .inl ⟨⟨_, readsMember_required rfl (.text content)⟩, fun _ => ⟨content, rfl⟩,
            by simp⟩
      | false => exact .inr (refusesMember_required rfl (.text shape))
  case neg =>
      by_cases isRecommendations : key = "recommendations"
      case neg =>
          refine .inl ⟨⟨id, ?_⟩, by simp [isStatus], by simp [isRecommendations]⟩
          rw [ReadsMember, field?_unknown isStatus isRecommendations]
          exact ⟨rfl, value.tokens_skip⟩
      case pos =>
          subst isRecommendations
          by_cases hold : ∃ entries, value = .list entries ∧
              ∃ recommendations, EntriesHold entries recommendations
          case pos =>
              have both := hold
              obtain ⟨entries, rfl, recommendations, stands⟩ := hold
              cases distinct with
              | list each =>
                  exact .inl ⟨⟨_, readsMember_required rfl (stands.reads each)⟩, by simp,
                    fun _ => both⟩
          case neg =>
              refine .inr (refusesMember_required rfl ?_)
              by_cases isList : ∃ entries, value = .list entries
              case pos =>
                  obtain ⟨entries, rfl⟩ := isList
                  cases distinct with
                  | list each =>
                      exact refuses_entries each (noLists rfl entries rfl)
                        fun stands => hold ⟨entries, rfl, stands⟩
              case neg => exact .list fun items same => isList ⟨items, same⟩

/-- An object in which no response stands is refused, unless an entry is a list. -/
theorem refuses_object {members : List (String × Json)}
    (distinct : (Json.object members).HasDistinctKeys)
    (noLists : ∀ entries, members.lookup "recommendations" = some (.list entries) →
      ∀ entry ∈ entries, ∀ items, entry ≠ .list items)
    (nothing : ¬∃ response : Response, response.StandsIn (.object members)) :
    Refuses format.read (Json.object members).tokens := by
  cases distinct with
  | object distinct each =>
      have decided (member : String × Json) (isMember : member ∈ members) :=
        member_decided (each member isMember) fun isList entries same =>
          noLists entries ((Json.lookup_eq_some distinct).mpr (by rwa [← isList, ← same]))
      refine .members (fun member isMember => (decided member isMember).imp_left And.left) ?_
      by_contra faultless
      rw [not_or] at faultless
      have given (key : String) (isField : ∃ field ∈ format.fields,
          field.hasDefault = false ∧ field.key = key) : ∃ value, (key, value) ∈ members := by
        obtain ⟨field, isField, needed, rfl⟩ := isField
        by_contra absent
        refine faultless.2 ⟨field, isField, needed, fun present => absent ?_⟩
        obtain ⟨member, isMember, same⟩ := List.mem_map.mp present
        exact ⟨member.2, same ▸ isMember⟩
      have read (member : String × Json) (isMember : member ∈ members) :=
        (decided member isMember).resolve_right fun refuses =>
          faultless.1 ⟨member, isMember, refuses⟩
      obtain ⟨value, isMember⟩ := given "status" ⟨_, List.mem_cons_self, rfl, rfl⟩
      obtain ⟨list, isListMember⟩ := given "recommendations"
        ⟨_, List.mem_cons_of_mem _ List.mem_cons_self, rfl, rfl⟩
      obtain ⟨status, rfl⟩ := (read _ isMember).2.1 rfl
      obtain ⟨entries, rfl, recommendations, hold⟩ := (read _ isListMember).2.2 rfl
      exact nothing ⟨⟨status, recommendations⟩, (Json.lookup_eq_some distinct).mpr isMember,
        entries, (Json.lookup_eq_some distinct).mpr isListMember, hold⟩

/-- Both layouts of a value are scanned as its tokens. -/
theorem scan_layouts (value : Json) :
    ∀ text ∈ [value.compactText, value.prettyText],
      scan text.toList = Tape.push value.tokens .finished := by
  have nothing : ∀ char ∈ ([] : List Char), isBlank char = true := by simp
  have pretty := scan_prettyText value nothing
  rw [List.append_nil] at pretty
  simp [scan_compactText, pretty]

/-- An object with distinct keys, none of whose entries is a list, passes the shape check and has
a textual status exactly when its text is decoded as a response. The response has one
recommendation for each entry, with exactly the texts of the entry. -/
theorem decode_iff_shaped {members : List (String × Json)}
    (distinct : (Json.object members).HasDistinctKeys)
    (noLists : ∀ entries, members.lookup "recommendations" = some (.list entries) →
      ∀ entry ∈ entries, ∀ items, entry ≠ .list items)
    {text : String}
    (isText : text ∈ [(Json.object members).compactText, (Json.object members).prettyText]) :
    ((violation? (.object members) = none ∧
        ∃ status, members.lookup "status" = some (.text status)) ↔
      ∃ response, decode format.read text = .ok response) ∧
      ∀ response, decode format.read text = .ok response ↔
        response.StandsIn (.object members) := by
  have scanned := scan_layouts _ text isText
  have decoded (response : Response) :
      decode format.read text = .ok response ↔ response.StandsIn (.object members) := by
    have stood {other : Response} (stands : other.StandsIn (.object members)) :
        decode format.read text = .ok other := by
      rw [decode_eq_ok, scanned, stands.reads distinct]
    refine ⟨fun success => ?_, stood⟩
    by_cases stands : ∃ other : Response, other.StandsIn (.object members)
    · obtain ⟨other, stands⟩ := stands
      rwa [Except.ok.inj (success.symm.trans (stood stands))]
    · exact absurd success
        ((refuses_object distinct noLists stands).not_decoded scanned response)
  refine ⟨?_, decoded⟩
  simp only [decoded]
  rw [violation?_eq_none]
  constructor
  · rintro ⟨⟨entries, isList, recommendations, hold⟩, status, isStatus⟩
    exact ⟨⟨status, recommendations⟩, isStatus, entries, isList, hold⟩
  · rintro ⟨response, isStatus, entries, isList, hold⟩
    exact ⟨⟨entries, isList, _, hold⟩, _, isStatus⟩

/-- These members come in an odd order and carry more than is asked for. -/
def decoratedMembers : List (String × Json) := [
  ("trace", .list [.object [("recommendations", .null)], .number (.infinite true), .list []]),
  ("recommendations", .list [
    .object [("reason", .text "a \"quoted\" \\ reason"), ("rank", .integer (-7)),
      ("courseId", .text "A"), ("title", .text "Intro\n")],
    .object [("courseId", .text ""), ("title", .text "É"), ("reason", .text "\t"),
      ("Title", .object [("title", .list [.list []])])]]),
  ("status", .text "partial")]

/-- This is the response that stands in them. -/
def decoratedResponse : Response :=
  ⟨"partial", [⟨⟨"A"⟩, "Intro\n", "a \"quoted\" \\ reason"⟩, ⟨⟨""⟩, "É", "\t"⟩]⟩

/-- Whatever else is carried, the response is decoded from the indented text. -/
theorem decoratedMembers_decoded :
    (Json.object decoratedMembers).HasDistinctKeys ∧
      (∀ entries, decoratedMembers.lookup "recommendations" = some (.list entries) →
        ∀ entry ∈ entries, ∀ items, entry ≠ .list items) ∧
      violation? (.object decoratedMembers) = none ∧
      decode format.read (Json.object decoratedMembers).prettyText = .ok decoratedResponse := by
  have distinct : (Json.object decoratedMembers).HasDistinctKeys := by
    refine .object (by decide) ?_
    simp only [decoratedMembers, List.forall_mem_cons]
    refine ⟨.list ?_, .list ?_, .text _, by simp⟩
    · simp only [List.forall_mem_cons]
      exact ⟨.object (by decide) (by simpa using .null), .number _, .list (by simp), by simp⟩
    · simp only [List.forall_mem_cons]
      refine ⟨.object (by decide) ?_, .object (by decide) ?_, by simp⟩
      · simp only [List.forall_mem_cons]
        exact ⟨.text _, .integer _, .text _, .text _, by simp⟩
      · simp only [List.forall_mem_cons]
        exact ⟨.text _, .text _, .text _, .object (by decide)
          (by simpa using .list (by simpa using .list (by simp))), by simp⟩
  have noLists : ∀ entries, decoratedMembers.lookup "recommendations" = some (.list entries) →
      ∀ entry ∈ entries, ∀ items, entry ≠ .list items := by
    intro entries found
    obtain rfl := Json.list.inj (Option.some.inj found)
    simp
  have stands : decoratedResponse.StandsIn (.object decoratedMembers) :=
    ⟨rfl, _, rfl, .cons ⟨rfl, rfl, rfl⟩ (.cons ⟨rfl, rfl, rfl⟩ .nil)⟩
  obtain ⟨shaped, decoded⟩ := decode_iff_shaped distinct noLists
    (List.mem_cons_of_mem _ List.mem_cons_self)
  have success := (decoded decoratedResponse).mpr stands
  exact ⟨distinct, noLists, (shaped.mpr ⟨_, success⟩).1, success⟩

end Response

end CourseAdvisor
