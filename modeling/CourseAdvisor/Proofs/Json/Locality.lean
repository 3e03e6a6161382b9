/-
This file proves that what a reader makes of a value does not depend on what follows the value.
-/

import CourseAdvisor.Proofs.Json.Members
import CourseAdvisor.Proofs.Json.Skipping

namespace CourseAdvisor.Json

open FirstOccurrences

variable {α β : Type}

/-- A local reader takes tokens that it reads in the same way before anything else. -/
def Local (reader : Reader α) : Prop :=
  ∀ ⦃tape value rest⦄, reader tape = .ok (value, rest) →
    ∃ head tokens, tape = Tape.push (head :: tokens) rest ∧ Reads reader (head :: tokens) value

theorem Local.text : Local readText := by
  intro tape value rest read
  unfold readText at read
  split at read
  case h_1 =>
      cases read
      exact ⟨_, [], rfl, fun _ => rfl⟩
  case h_2 => cases read

theorem Local.boolean : Local readBoolean := by
  intro tape value rest read
  unfold readBoolean at read
  split at read
  case h_1 =>
      cases read
      exact ⟨_, [], rfl, fun _ => rfl⟩
  case h_2 => cases read

theorem Local.number : Local readNumber := by
  intro tape value rest read
  unfold readNumber at read
  split at read
  case h_1 =>
      split at read
      case h_1 found known =>
          cases read
          refine ⟨_, [], rfl, fun rest => ?_⟩
          rw [Tape.push_cons, readNumber, known]
          rfl
      case h_2 => cases read
  case h_2 => cases read

theorem Local.mapped {convert : α → β} {reader : Reader α} (isLocal : Local reader) :
    Local (readMapped convert reader) := by
  intro tape value rest read
  obtain ⟨⟨taken, left⟩, first, last⟩ := bind_eq_ok read
  cases last
  obtain ⟨head, tokens, same, reads⟩ := isLocal first
  exact ⟨head, tokens, same, reads.mapped convert⟩

theorem Local.optional {reader : Reader α} (isLocal : Local reader) :
    Local (readOptional reader) := by
  intro tape value rest read
  unfold readOptional at read
  split at read
  case h_1 =>
      cases read
      exact ⟨_, [], rfl, fun _ => rfl⟩
  case h_2 present =>
      obtain ⟨⟨taken, left⟩, first, last⟩ := bind_eq_ok read
      cases last
      obtain ⟨head, tokens, rfl, reads⟩ := isLocal first
      refine ⟨head, tokens, rfl, reads.optional ⟨head, rfl, ?_⟩⟩
      rintro rfl
      exact present _ rfl

/-- The items that are read make up a list. -/
theorem readItems_items {reader : Reader α} (isLocal : Local reader) {fuel : Nat} {tape rest : Tape}
    {values : List α} (read : readItems reader fuel tape = .ok (values, rest)) :
    ∃ head tokens items, tape = Tape.push (listTokens ((head :: tokens) :: items)) rest ∧
      List.Forall₂ (Reads reader) ((head :: tokens) :: items) values := by
  induction fuel generalizing tape values with
  | zero => cases read
  | succ fuel ih =>
      obtain ⟨⟨item, left⟩, first, after⟩ := bind_eq_ok read
      obtain ⟨head, tokens, rfl, reads⟩ := isLocal first
      dsimp only at after
      split at after
      case h_1 =>
          cases after
          refine ⟨head, tokens, [], ?_, .cons reads .nil⟩
          simp [listTokens]
      case h_2 =>
          obtain ⟨⟨items, beyond⟩, others, last⟩ := bind_eq_ok after
          cases last
          obtain ⟨next, following, further, rfl, itemsRead⟩ := ih others
          refine ⟨head, tokens, _, ?_, .cons reads itemsRead⟩
          simp [listTokens]
      case h_3 => cases after

theorem Local.list {reader : Reader α} (isLocal : Local reader) : Local (readList reader) := by
  intro tape values rest read
  unfold readList at read
  split at read
  case h_1 =>
      cases read
      exact ⟨.openList, [.closeList], rfl, fun _ => rfl⟩
  case h_2 unclosed =>
      obtain ⟨head, tokens, items, rfl, reads⟩ := readItems_items isLocal read
      refine ⟨.openList, _, rfl, Reads.list reads ?_⟩
      intro item isFirst
      obtain rfl := Option.some.inj isFirst
      refine ⟨head, rfl, ?_⟩
      rintro rfl
      cases items <;> exact unclosed _ rfl
  case h_3 => cases read

/-- What is skipped is skipped before anything else. -/
theorem skipFrom_local {awaited : Awaited} {nests : List Nest} {tape rest : Tape}
    (skipped : skipFrom awaited nests tape = .ok rest) :
    ∃ tokens, tape = Tape.push tokens rest ∧
      ∀ after, skipFrom awaited nests (Tape.push tokens after) = .ok after := by
  induction tape generalizing awaited nests with
  | token head left ih =>
      by_cases finished : awaited = .separator ∧ nests = []
      case pos =>
          obtain ⟨rfl, rfl⟩ := finished
          rw [skipFrom_done] at skipped
          cases skipped
          exact ⟨[], rfl, skipFrom_done⟩
      case neg =>
          rw [skipFrom, if_neg finished] at skipped
          split at skipped
          case h_1 next inner advanced =>
              obtain ⟨tokens, rfl, others⟩ := ih skipped
              refine ⟨head :: tokens, rfl, fun after => ?_⟩
              rw [Tape.push_cons, skipFrom_step (not_and.mp finished) advanced, others]
          case h_2 => cases skipped
  | finished | broken | brokenText =>
      rw [skipFrom] at skipped
      · split at skipped
        case isTrue finished =>
            obtain ⟨rfl, rfl⟩ := finished
            cases skipped
            exact ⟨[], rfl, skipFrom_done⟩
        case isFalse => cases skipped
      · simp

theorem readColon_eq {tape rest : Tape} (read : readColon tape = .ok rest) :
    tape = .token .colon rest := by
  unfold readColon at read
  split at read
  · cases read
    rfl
  · cases read

namespace RecordFormat

variable {format : RecordFormat α}

/-- A member that is read gives its update, and a known key is kept in mind. -/
theorem readMember_member (areLocal : ∀ field ∈ format.fields, Local field.read)
    {seen later : List String} {key : String} {tape rest : Tape} {update : α → α}
    (read : format.readMember seen key tape = .ok (update, later, rest)) :
    ∃ tokens, tape = .token .colon (Tape.push tokens rest) ∧
      format.ReadsMember (key, tokens) update ∧ later = format.remembered key seen ∧
      ¬(format.isKnown key = true ∧ key ∈ seen) := by
  unfold remembered isKnown
  unfold readMember at read
  split at read
  case h_1 field known =>
      split at read
      case isTrue => cases read
      case isFalse fresh =>
          obtain ⟨left, colon, after⟩ := bind_eq_ok read
          obtain ⟨⟨taken, beyond⟩, first, last⟩ := bind_eq_ok after
          cases last
          obtain ⟨head, tokens, rfl, reads⟩ :=
            areLocal field (List.mem_of_find?_eq_some known) first
          rw [readColon_eq colon, known]
          refine ⟨head :: tokens, rfl, ?_, rfl, fun old => fresh (by simpa using old.2)⟩
          rwa [ReadsMember, known]
  case h_2 unknown =>
      obtain ⟨left, colon, after⟩ := bind_eq_ok read
      obtain ⟨beyond, skipped, last⟩ := bind_eq_ok after
      cases last
      obtain ⟨tokens, rfl, skips⟩ := skipFrom_local skipped
      rw [readColon_eq colon, unknown]
      refine ⟨tokens, rfl, ?_, rfl, fun old => Bool.noConfusion old.1⟩
      rw [ReadsMember, unknown]
      exact ⟨rfl, skips⟩

/-- What settles before one rest settles before any other. -/
theorem settled_local {seen keys : List String} {record value : α} {rest left : Tape}
    (settled : format.settled seen keys record rest = .ok (value, left)) :
    left = rest ∧ ∀ after, format.settled seen keys record after = .ok (value, after) := by
  unfold RecordFormat.settled at settled ⊢
  split at settled
  case h_1 => cases settled
  case h_2 unrepeated =>
      unfold finish at settled ⊢
      split at settled
      case h_1 => cases settled
      case h_2 complete =>
          cases settled
          exact ⟨rfl, fun _ => rfl⟩

/-- The members that are read make up an object. -/
theorem readMembers_members (areLocal : ∀ field ∈ format.fields, Local field.read) {fuel : Nat}
    {seen : List String} {record value : α} {tape rest : Tape}
    (read : format.readMembers fuel seen record tape = .ok (value, rest)) :
    ∃ member members updates, tape = Tape.push (objectTokens (member :: members)) rest ∧
      List.Forall₂ format.ReadsMember (member :: members) updates ∧
      format.settled seen (format.knownKeys (member :: members)) (revised updates record) rest =
        .ok (value, rest) := by
  induction fuel generalizing seen record tape with
  | zero => cases read
  | succ fuel ih =>
      unfold readMembers at read
      split at read
      case h_1 key left =>
          obtain ⟨⟨update, later, beyond⟩, first, after⟩ := bind_eq_ok read
          obtain ⟨tokens, rfl, reads, rfl, fresh⟩ := readMember_member areLocal first
          dsimp only at after
          split at after
          case h_1 =>
              have same : format.settled seen (format.knownKeys [(key, tokens)])
                  (update record) = format.finish (format.remembered key seen) (update record) := by
                funext rest
                exact (settled_remembered fresh (update record) rest).symm
              obtain ⟨rfl, _⟩ := settled_local ((congrFun same _).trans after)
              refine ⟨(key, tokens), [], [update], ?_, .cons reads .nil, ?_⟩
              · simp [objectTokens]
              · rw [← after, ← same]
                rfl
          case h_2 =>
              obtain ⟨second, members, updates, rfl, others, settled⟩ := ih after
              refine ⟨(key, tokens), second :: members, update :: updates, ?_,
                .cons reads others, ?_⟩
              · simp [objectTokens]
              · rw [← settled]
                exact (settled_remembered fresh _ rest).symm
          case h_3 => cases after
      case h_2 => cases read

/-- Where the list goes on, the next field is read after the comma before it. -/
theorem readPositions_cons {field : Field α} {fields : List (Field α)} {count : Nat} {record : α}
    {tape : Tape} (unclosed : ∀ rest, tape ≠ .token .closeList rest) :
    format.readPositions count record (field :: fields) tape = (do
      let tape ← if count = 0 then pure tape else
        match tape with
        | .token .comma rest => pure rest
        | tape => throw tape.misplaced
      let (update, rest) ← field.read tape
      format.readPositions (count + 1) (update record) fields rest) := by
  rw [readPositions.eq_def]
  cases tape with
  | token head rest => cases head <;> first | rfl | exact absurd rfl (unclosed rest)
  | finished | broken | brokenText => rfl

/-- The fields that are read in order make up a list, up to its closing bracket. -/
theorem readPositions_local {fields : List (Field α)}
    (areLocal : ∀ field ∈ fields, Local field.read) {count : Nat} {record value : α}
    {tape rest : Tape} (read : format.readPositions count record fields tape = .ok (value, rest)) :
    ∃ tokens, tape = Tape.push (tokens ++ [.closeList]) rest ∧
      ∀ after, format.readPositions count record fields
        (Tape.push (tokens ++ [.closeList]) after) = .ok (value, after) := by
  induction fields generalizing count record tape with
  | nil =>
      unfold readPositions at read
      split at read
      case h_1 =>
          cases read
          exact ⟨[], rfl, fun _ => rfl⟩
      case h_2 => cases read
      all_goals contradiction
  | cons field fields ih =>
      have later := @ih fun other member => areLocal other (List.mem_cons_of_mem field member)
      -- The first field is read where its value starts, and the others from where it ends.
      have further {tape : Tape} (read : (field.read tape >>= fun taken =>
          format.readPositions (count + 1) (taken.1 record) fields taken.2) = .ok (value, rest)) :
          ∃ head tokens, tape = Tape.push (head :: tokens ++ [.closeList]) rest ∧
            ∀ after, (field.read (Tape.push (head :: tokens ++ [.closeList]) after) >>= fun taken =>
              format.readPositions (count + 1) (taken.1 record) fields taken.2) =
                .ok (value, after) := by
        obtain ⟨⟨update, left⟩, first, others⟩ := bind_eq_ok read
        obtain ⟨head, tokens, rfl, reads⟩ := areLocal field List.mem_cons_self first
        obtain ⟨following, rfl, same⟩ := later others
        refine ⟨head, tokens ++ following, by simp, fun after => ?_⟩
        rw [← List.cons_append, List.append_assoc, Tape.push_append, reads]
        exact same after
      by_cases closed : ∃ left, tape = .token .closeList left
      case pos =>
          obtain ⟨left, rfl⟩ := closed
          rw [readPositions] at read
          split at read
          case isTrue defaults =>
              cases read
              refine ⟨[], rfl, fun after => ?_⟩
              rw [List.nil_append, Tape.push_cons, readPositions, if_pos defaults]
              rfl
          case isFalse => cases read
      case neg =>
          have unclosed := not_exists.mp closed
          rw [readPositions_cons unclosed] at read
          by_cases first : count = 0
          case pos =>
              rw [if_pos first] at read
              obtain ⟨head, tokens, rfl, others⟩ := further read
              refine ⟨head :: tokens, rfl, fun after => ?_⟩
              rw [List.cons_append, Tape.push_cons, readPositions_cons, if_pos first]
              · exact others after
              · intro left same
                obtain ⟨rfl, -⟩ := Tape.token.inj same
                exact unclosed _ rfl
          case neg =>
              rw [if_neg first] at read
              split at read
              case h_1 =>
                  obtain ⟨head, tokens, rfl, others⟩ := further read
                  refine ⟨.comma :: head :: tokens, rfl, fun after => ?_⟩
                  rw [List.cons_append, Tape.push_cons, readPositions_cons (by simp), if_neg first]
                  exact others after
              case h_2 => cases read

/-- A record is read between brackets that match. -/
theorem read_local (areLocal : ∀ field ∈ format.fields, Local field.read) {tape rest : Tape}
    {value : α} (read : format.read tape = .ok (value, rest)) :
    ∃ opening inner closing,
      (opening, closing) ∈ [(Token.openObject, Token.closeObject), (.openList, .closeList)] ∧
        tape = Tape.push (opening :: inner ++ [closing]) rest ∧
        Reads format.read (opening :: inner ++ [closing]) value := by
  have asObject {members : List (String × List Token)} {updates : List (α → α)}
      (reads : List.Forall₂ format.ReadsMember members updates)
      (settled : format.settled [] (format.knownKeys members) (revised updates format.blank) rest =
        .ok (value, rest)) : Reads format.read (.openObject :: objectTokens members) value := by
    intro after
    rw [read_object reads]
    exact (settled_local settled).2 after
  unfold RecordFormat.read at read
  split at read
  case h_1 after =>
      have settled : format.settled [] [] format.blank after = .ok (value, rest) := read
      obtain ⟨rfl, _⟩ := settled_local settled
      exact ⟨.openObject, [], .closeObject, by simp, rfl, asObject .nil settled⟩
  case h_2 =>
      obtain ⟨member, members, updates, rfl, reads, settled⟩ := readMembers_members areLocal read
      have object := asObject reads settled
      rw [objectTokens_eq] at object
      rw [objectTokens_eq]
      exact ⟨.openObject, _, .closeObject, by simp, rfl, object⟩
  case h_3 =>
      obtain ⟨tokens, rfl, others⟩ := readPositions_local areLocal read
      exact ⟨.openList, tokens, .closeList, by simp, rfl, others⟩
  case h_4 => cases read

end RecordFormat

/-- A record format whose fields are local is local itself, in both of its forms. -/
theorem Local.record {format : RecordFormat α}
    (areLocal : ∀ field ∈ format.fields, Local field.read) : Local format.read := by
  intro tape value rest read
  obtain ⟨opening, inner, closing, _, same, reads⟩ := format.read_local areLocal read
  exact ⟨opening, inner ++ [closing], same, reads⟩

/-- A reader is composed of readers of scalars by lists and by the fields of records. -/
inductive Composed : {α : Type} → Reader α → Prop
  | text : Composed readText
  | boolean : Composed readBoolean
  | number : Composed readNumber
  | mapped {α β : Type} {convert : α → β} {reader : Reader α} (composed : Composed reader) :
      Composed (readMapped convert reader)
  | optional {α : Type} {reader : Reader α} (composed : Composed reader) :
      Composed (readOptional reader)
  | list {α : Type} {reader : Reader α} (composed : Composed reader) : Composed (readList reader)
  | record {α : Type} {format : RecordFormat α}
      (composed : ∀ field ∈ format.fields, Composed field.read) : Composed format.read

theorem Composed.isLocal {reader : Reader α} (composed : Composed reader) : Local reader := by
  induction composed with
  | text => exact .text
  | boolean => exact .boolean
  | number => exact .number
  | mapped _ ih => exact .mapped ih
  | optional _ ih => exact .optional ih
  | list _ ih => exact .list ih
  | record _ ih => exact .record ih

end CourseAdvisor.Json
