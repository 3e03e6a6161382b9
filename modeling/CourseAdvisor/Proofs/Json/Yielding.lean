/-
This file proves that what holds of every piece that is read holds of the whole.
-/

import CourseAdvisor.Json.Record

namespace CourseAdvisor.Json

variable {α β : Type}

/-- Every value that the reader gives is good. -/
def Yields (reader : Reader α) (good : α → Prop) : Prop :=
  ∀ ⦃tape value rest⦄, reader tape = .ok (value, rest) → good value

/-- Two steps succeed when the first does and the second does with its value. -/
theorem bind_eq_ok {ε : Type} {first : Except ε α} {next : α → Except ε β} {result : β}
    (succeeded : first >>= next = .ok result) :
    ∃ value, first = .ok value ∧ next value = .ok result := by
  cases first with
  | error fault => cases succeeded
  | ok value => exact ⟨value, rfl, succeeded⟩

/-- A text is decoded when its value is all that stands in it. -/
theorem decode_eq_ok {reader : Reader α} {text : String} {value : α} :
    decode reader text = .ok value ↔ reader (scan text.toList) = .ok (value, .finished) := by
  unfold decode
  constructor
  · intro decoded
    obtain ⟨⟨found, rest⟩, read, last⟩ := bind_eq_ok decoded
    dsimp only at last
    split at last
    · cases last
      exact read
    · cases last
  · intro read
    rw [read]
    rfl

/-- Every value that is decoded is good. -/
theorem Yields.decoded {reader : Reader α} {good : α → Prop} (yields : Yields reader good)
    {text : String} {value : α} (decoded : decode reader text = .ok value) : good value :=
  yields (decode_eq_ok.mp decoded)

theorem Yields.mapped {reader : Reader α} {convert : α → β} {good : β → Prop}
    (yields : Yields reader fun value => good (convert value)) :
    Yields (readMapped convert reader) good := by
  intro tape value rest read
  obtain ⟨⟨taken, left⟩, first, last⟩ := bind_eq_ok read
  cases last
  exact yields first

theorem readItems_yields {reader : Reader α} {good : α → Prop} (yields : Yields reader good)
    (fuel : Nat) : Yields (readItems reader fuel) fun values => ∀ value ∈ values, good value := by
  induction fuel with
  | zero =>
      intro tape values rest read
      cases read
  | succ fuel ih =>
      intro tape values rest read
      obtain ⟨⟨item, left⟩, first, after⟩ := bind_eq_ok read
      dsimp only at after
      split at after
      case h_1 =>
          cases after
          simpa using yields first
      case h_2 =>
          obtain ⟨⟨items, beyond⟩, others, last⟩ := bind_eq_ok after
          cases last
          exact List.forall_mem_cons.mpr ⟨yields first, ih others⟩
      case h_3 => cases after

theorem Yields.list {reader : Reader α} {good : α → Prop} (yields : Yields reader good) :
    Yields (readList reader) fun values => ∀ value ∈ values, good value := by
  intro tape values rest read
  unfold readList at read
  split at read
  case h_1 =>
      cases read
      simp
  case h_2 => exact readItems_yields yields _ read
  case h_3 => cases read

/-- A field keeps good records good when every update that it reads does. -/
def Field.Keeps (field : Field α) (good : α → Prop) : Prop :=
  Yields field.read fun update => ∀ record, good record → good (update record)

theorem Field.required_keeps {key : String} {reader : Reader β} {set : β → α → α} {good : α → Prop}
    (keeps : Yields reader fun value => ∀ record, good record → good (set value record)) :
    (Field.required key reader set).Keeps good :=
  keeps.mapped

theorem Field.optional_keeps {key : String} {reader : Reader β} {set : β → α → α} {good : α → Prop}
    (keeps : Yields reader fun value => ∀ record, good record → good (set value record)) :
    (Field.optional key reader set).Keeps good :=
  keeps.mapped

namespace RecordFormat

variable {format : RecordFormat α} {good : α → Prop}

/-- Every field of the format keeps good records good. -/
def Preserves (format : RecordFormat α) (good : α → Prop) : Prop :=
  ∀ field ∈ format.fields, field.Keeps good

theorem readMember_yields (preserves : format.Preserves good) {seen later : List String}
    {key : String} {tape rest : Tape} {update : α → α}
    (read : format.readMember seen key tape = .ok (update, later, rest)) {record : α}
    (sound : good record) : good (update record) := by
  unfold readMember at read
  split at read
  case h_1 field known =>
      split at read
      case isTrue => cases read
      case isFalse =>
          obtain ⟨left, _, after⟩ := bind_eq_ok read
          obtain ⟨⟨taken, beyond⟩, first, last⟩ := bind_eq_ok after
          cases last
          exact preserves field (List.mem_of_find?_eq_some known) first record sound
  case h_2 =>
      obtain ⟨left, _, after⟩ := bind_eq_ok read
      obtain ⟨beyond, _, last⟩ := bind_eq_ok after
      cases last
      exact sound

theorem finish_yields {seen : List String} {record : α} (sound : good record) :
    Yields (format.finish seen record) good := by
  intro tape value rest read
  unfold finish at read
  split at read
  case h_1 => cases read
  case h_2 =>
      cases read
      exact sound

theorem readMembers_yields (preserves : format.Preserves good) (fuel : Nat) (seen : List String)
    {record : α} (sound : good record) : Yields (format.readMembers fuel seen record) good := by
  induction fuel generalizing seen record with
  | zero =>
      intro tape value rest read
      cases read
  | succ fuel ih =>
      intro tape value rest read
      unfold readMembers at read
      split at read
      case h_1 key left =>
          obtain ⟨⟨update, later, beyond⟩, member, after⟩ := bind_eq_ok read
          have kept := readMember_yields preserves member sound
          dsimp only at after
          split at after
          · exact finish_yields kept after
          · exact ih later kept after
          · cases after
      case h_2 => cases read

theorem readPositions_yields {fields : List (Field α)}
    (preserves : ∀ field ∈ fields, field.Keeps good) (count : Nat) {record : α}
    (sound : good record) :
    Yields (fun tape => format.readPositions count record fields tape) good := by
  induction fields generalizing count record with
  | nil =>
      intro tape value rest read
      unfold readPositions at read
      dsimp only at read
      split at read
      case h_1 =>
          cases read
          exact sound
      case h_2 => cases read
      all_goals contradiction
  | cons field fields ih =>
      have later := ih fun other member => preserves other (List.mem_cons_of_mem field member)
      have further {tape rest : Tape} {value : α} (read : (field.read tape >>= fun taken =>
          format.readPositions (count + 1) (taken.1 record) fields taken.2) = .ok (value, rest)) :
          good value := by
        obtain ⟨⟨update, left⟩, first, after⟩ := bind_eq_ok read
        exact later (count + 1) (preserves field List.mem_cons_self first record sound) after
      intro tape value rest read
      unfold readPositions at read
      dsimp only at read
      split at read
      case h_1 | h_2 => contradiction
      case h_3 =>
          split at read
          · cases read
            exact sound
          · cases read
      case h_4 same _ =>
          obtain ⟨rfl, rfl⟩ := List.cons.inj same
          split at read
          · exact further read
          · split at read
            · exact further read
            · cases read

/-- A record is good when the blank one is and every field preserves it. -/
theorem read_yields (blank : good format.blank) (preserves : format.Preserves good) :
    Yields format.read good := by
  intro tape value rest read
  unfold RecordFormat.read at read
  split at read
  case h_1 => exact finish_yields blank read
  case h_2 => exact readMembers_yields preserves _ [] blank read
  case h_3 => exact readPositions_yields preserves 0 blank read
  case h_4 => cases read

end RecordFormat

end CourseAdvisor.Json
