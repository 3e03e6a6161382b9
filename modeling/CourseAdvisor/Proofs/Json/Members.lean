/-
This file proves what a record format makes of the members of an object.
-/

import Mathlib.Data.List.Nodup
import CourseAdvisor.Proofs.FirstOccurrences
import CourseAdvisor.Proofs.Json.Reading

namespace CourseAdvisor.Json

open FirstOccurrences

variable {α : Type}

/-- These tokens are a value that is skipped, whatever follows it. -/
def Skips (tokens : List Token) : Prop :=
  ∀ rest, skipValue (Tape.push tokens rest) = .ok rest

/-- The updates are made in order. -/
def revised (updates : List (α → α)) (record : α) : α :=
  updates.foldl (fun record update => update record) record

namespace RecordFormat

variable {format : RecordFormat α}

/-- A member is an update when its key is known, and is skipped otherwise. -/
def ReadsMember (format : RecordFormat α) (member : String × List Token) (update : α → α) : Prop :=
  match format.field? member.1 with
  | some field => Reads field.read member.2 update
  | none => update = id ∧ Skips member.2

def isKnown (format : RecordFormat α) (key : String) : Bool := (format.field? key).isSome

theorem isKnown_of_field? {key : String} {field : Field α}
    (known : format.field? key = some field) : format.isKnown key = true :=
  Option.isSome_of_eq_some known

/-- These are the keys of the members that give a field. -/
def knownKeys (format : RecordFormat α) (members : List (String × List Token)) : List String :=
  (members.map Prod.fst).filter format.isKnown

/-- A known key is kept in mind. -/
def remembered (format : RecordFormat α) (key : String) (seen : List String) : List String :=
  if format.isKnown key then key :: seen else seen

/-- The first key is kept in mind before the others. -/
theorem knownKeys_remembered (member : String × List Token)
    (members : List (String × List Token)) (seen : List String) :
    (format.knownKeys (member :: members)).reverse ++ seen =
      (format.knownKeys members).reverse ++ format.remembered member.1 seen := by
  unfold knownKeys remembered
  rw [List.map_cons, List.filter_cons]
  split <;> simp

variable {β : Type} {key : String} {reader : Reader β} {set : β → α → α} {tokens : List Token}
  {value : β}

/-- A member sets a required field to the value that it reads as. -/
theorem readsMember_required (known : format.field? key = some (.required key reader set))
    (reads : Reads reader tokens value) : format.ReadsMember (key, tokens) (set value) := by
  rw [ReadsMember, known]
  exact reads.mapped set

/-- A member sets an optional field to the value that it reads as. -/
theorem readsMember_optional (known : format.field? key = some (.optional key reader set))
    (reads : Reads reader tokens value) : format.ReadsMember (key, tokens) (set value) := by
  rw [ReadsMember, known]
  exact reads.mapped set

/-- A member that may be absent is read when it is there. -/
theorem readsMembers_option {γ : Type} {write : γ → List Token} {update : γ → α → α}
    (reads : ∀ value, format.ReadsMember (key, write value) (update value)) (option : Option γ) :
    List.Forall₂ format.ReadsMember (option.map fun value => (key, write value)).toList
      (option.map update).toList := by
  cases option with
  | none => exact .nil
  | some value => exact .cons (reads value) .nil

/-- A new member gives its update, and a known key is kept in mind. -/
theorem readMember_reads {member : String × List Token} {update : α → α}
    (reads : format.ReadsMember member update) {seen : List String}
    (fresh : format.isKnown member.1 = true → member.1 ∉ seen) (rest : Tape) :
    format.readMember seen member.1 (.token .colon (Tape.push member.2 rest)) =
      .ok (update, format.remembered member.1 seen, rest) := by
  unfold ReadsMember at reads
  unfold remembered
  unfold isKnown at fresh ⊢
  unfold readMember
  split at reads
  case h_1 field known =>
      have unseen : ¬seen.contains member.1 = true := by
        simpa using fresh (isKnown_of_field? known)
      simp only [known]
      rw [if_neg unseen]
      simp [readColon, reads rest, bind, Except.bind, pure, Except.pure]
  case h_2 unknown =>
      obtain ⟨rfl, skips⟩ := reads
      simp [unknown, readColon, skips rest, bind, Except.bind, pure, Except.pure]

/-- A known key that has been seen stops the reading, whatever its value is. -/
theorem readMember_repeated {key : String} {seen : List String}
    (known : format.isKnown key = true) (old : key ∈ seen) (tape : Tape) :
    format.readMember seen key tape = .error (.misfit (.duplicateField key)) := by
  obtain ⟨field, isField⟩ := Option.isSome_iff_exists.mp known
  rw [readMember, isField]
  simp only [List.contains_iff_mem.mpr old, reduceIte]
  rfl

/-- This is what comes of members with these known keys: a repeated key stops the reading. -/
def settled (format : RecordFormat α) (seen keys : List String) (record : α) (rest : Tape) :
    Except ReadError (α × Tape) :=
  match repeated? seen keys with
  | some key => .error (.misfit (.duplicateField key))
  | none => format.finish (keys.reverse ++ seen) record rest

/-- What is kept in mind before a member is counted with it afterwards. -/
theorem settled_remembered {key : String} {value : List Token}
    {members : List (String × List Token)} {seen : List String}
    (fresh : ¬(format.isKnown key = true ∧ key ∈ seen)) (record : α) (rest : Tape) :
    format.settled (format.remembered key seen) (format.knownKeys members) record rest =
      format.settled seen (format.knownKeys ((key, value) :: members)) record rest := by
  have repeats : repeated? (format.remembered key seen) (format.knownKeys members) =
      repeated? seen (format.knownKeys ((key, value) :: members)) := by
    unfold remembered knownKeys
    rw [List.map_cons, List.filter_cons]
    split
    case isTrue known => rw [repeated?, if_neg fun old => fresh ⟨known, old⟩]
    case isFalse => rfl
  rw [settled, settled, repeats, knownKeys_remembered]

/-- The members are read one after the other up to the closing brace or up to the first known key
that comes again. -/
theorem readMembers_reads {members : List (String × List Token)} {updates : List (α → α)}
    (reads : List.Forall₂ format.ReadsMember members updates) (nonempty : members ≠ [])
    {fuel : Nat} (enough : members.length ≤ fuel) (seen : List String) (record : α)
    (rest : Tape) :
    format.readMembers fuel seen record (Tape.push (objectTokens members) rest) =
      format.settled seen (format.knownKeys members) (revised updates record) rest := by
  induction reads generalizing fuel seen record with
  | nil => exact absurd rfl nonempty
  | @cons member update members updates first others ih =>
      obtain ⟨key, value⟩ := member
      cases fuel with
      | zero => simp at enough
      | succ fuel =>
          by_cases old : format.isKnown key = true ∧ key ∈ seen
          case pos =>
              have stopped := readMember_repeated old.1 old.2
              have repeats :
                  repeated? seen (format.knownKeys ((key, value) :: members)) = some key := by
                simp [knownKeys, old.1, repeated?, old.2]
              rw [settled, repeats]
              cases others <;> simp [objectTokens, readMembers, stopped, bind, Except.bind]
          case neg =>
              have taken := readMember_reads first (not_and.mp old)
              rw [← settled_remembered old]
              cases others with
              | nil =>
                  simp [objectTokens, readMembers, taken, bind, Except.bind, revised, settled,
                    knownKeys, repeated?]
              | @cons next _ members _ second further =>
                  have left := ih (List.cons_ne_nil next members)
                    (Nat.le_of_succ_le_succ enough) (format.remembered key seen) (update record)
                  simp [objectTokens, readMembers, taken, bind, Except.bind, revised, left]

/-- An object that does not close at once is read member by member. -/
theorem read_open {rest : Tape} (unclosed : ∀ left, rest ≠ .token .closeObject left) :
    format.read (.token .openObject rest) =
      format.readMembers (rest.length + 1) [] format.blank rest := by
  unfold RecordFormat.read
  split
  case h_1 same => exact absurd (Tape.token.inj same).2 (unclosed _)
  case h_2 same => rw [(Tape.token.inj same).2]
  case h_3 same => cases same
  case h_4 unopened _ => exact absurd rfl (unopened _)

/-- An object starts with the blank record. -/
theorem read_object {members : List (String × List Token)} {updates : List (α → α)}
    (reads : List.Forall₂ format.ReadsMember members updates) (rest : Tape) :
    format.read (Tape.push (.openObject :: objectTokens members) rest) =
      format.settled [] (format.knownKeys members) (revised updates format.blank) rest := by
  cases reads with
  | nil => rfl
  | @cons member update members updates first others =>
      have unclosed (after : Tape) :
          Tape.push (objectTokens (member :: members)) rest ≠ .token .closeObject after := by
        obtain ⟨key, value⟩ := member
        cases members <;> simp [objectTokens]
      rw [Tape.push_cons, read_open unclosed]
      apply readMembers_reads (.cons first others) (List.cons_ne_nil member members)
      have longer := objectTokens_length (member :: members)
      rw [Tape.push_length]
      omega

/-- A record is complete when every field without a default has been seen. -/
theorem finish_complete {seen : List String}
    (complete : ∀ field ∈ format.fields, field.hasDefault = false → field.key ∈ seen) (record : α)
    (rest : Tape) : format.finish seen record rest = .ok (record, rest) := by
  have nothing : format.missing? seen = none := by
    unfold missing?
    rw [List.find?_eq_none]
    intro field isField
    cases given : field.hasDefault with
    | true => simp
    | false => simpa using complete field isField given
  rw [finish, nothing]
  rfl

/-- The known keys are those of the fields. -/
theorem isKnown_iff {key : String} :
    format.isKnown key = true ↔ key ∈ format.fields.map (·.key) := by
  rw [isKnown, field?, List.find?_isSome, List.mem_map]
  simp

theorem isKnown_key {field : Field α} (isField : field ∈ format.fields) :
    format.isKnown field.key = true :=
  isKnown_iff.mpr (List.mem_map_of_mem isField)

end RecordFormat

/-- An object reads as the updates of its members when they are distinct and complete. -/
theorem Reads.object {format : RecordFormat α} {members : List (String × List Token)}
    {updates : List (α → α)} (reads : List.Forall₂ format.ReadsMember members updates)
    (distinct : (format.knownKeys members).Nodup)
    (complete : ∀ field ∈ format.fields, field.hasDefault = false →
      field.key ∈ members.map Prod.fst) :
    Reads format.read (.openObject :: objectTokens members) (revised updates format.blank) := by
  intro rest
  have unrepeated : repeated? [] (format.knownKeys members) = none :=
    repeated?_eq_none.mpr ⟨distinct, by simp⟩
  rw [RecordFormat.read_object reads, RecordFormat.settled, unrepeated]
  apply RecordFormat.finish_complete
  intro field isField needed
  rw [List.append_nil]
  rw [List.mem_reverse, RecordFormat.knownKeys, List.mem_filter]
  exact ⟨complete field isField needed, RecordFormat.isKnown_key isField⟩

end CourseAdvisor.Json
