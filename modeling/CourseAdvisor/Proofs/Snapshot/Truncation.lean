/-
This file proves that a snapshot text is read neither when it is cut off nor when it goes on.
-/

import CourseAdvisor.Proofs.Json.PartialText
import CourseAdvisor.Proofs.RecordKind
import CourseAdvisor.Store

namespace CourseAdvisor

open Json

namespace Json

variable {α : Type} {format : RecordFormat α} {text : String} {value : α}

namespace RecordFormat

variable (composed : ∀ field ∈ format.fields, Composed field.read)
  (decoded : decode format.read text = .ok value)

include composed decoded

/-- The tape of a record text is the record between brackets that match. -/
theorem decode_tokens :
    ∃ opening inner closing,
      (opening, closing) ∈ [(Token.openObject, Token.closeObject), (.openList, .closeList)] ∧
        scan text.toList = Tape.push (opening :: inner ++ [closing]) .finished ∧
        Reads format.read (opening :: inner ++ [closing]) value :=
  read_local (fun field member => (composed field member).isLocal) (decode_eq_ok.mp decoded)

theorem decode_bracketed : ∃ front back, text.toList = front ++ back ∧ Bracketed front back := by
  obtain ⟨opening, inner, closing, pair, scanned, _⟩ := decode_tokens composed decoded
  exact scan_enclosed pair scanned

/-- A record text that is cut off in front of more than blanks has a fault of grammar. -/
theorem decode_cut {part more : List Char} (split : text.toList = part ++ more)
    (within : ¬IsBlanks more) :
    ∃ fault, decode format.read (String.ofList part) = .error (.grammar fault) := by
  obtain ⟨opening, inner, closing, _, scanned, _⟩ := decode_tokens composed decoded
  have senses : ∀ field ∈ format.fields, Senses field.read := fun field member =>
    (composed field member).senses
  have read := decode_eq_ok.mp decoded
  rw [split] at read scanned
  have cut : Cut (scan (part ++ more)) (scan part) := by
    apply scan_cut scanned
    simpa [isBlanks_iff] using within
  -- Nothing can be cut off a tape that is finished, so there is nothing to succeed with.
  have nothing : FaultOr (fun _ => False) (format.read (scan part)) := by
    apply (read_cut senses read cut).mono
    intro taken beyond
    cases beyond
  obtain ⟨fault, failed⟩ := nothing.exists_fault
  refine ⟨fault, ?_⟩
  rw [decode, String.toList_ofList, failed]
  rfl

/-- What follows a record text is left when the record has been read. -/
theorem read_append (extra : String) :
    format.read (scan (text ++ extra).toList) = .ok (value, scan extra.toList) := by
  obtain ⟨opening, inner, closing, pair, scanned, reads⟩ := decode_tokens composed decoded
  have notNumber (numeral : Numeral) : closing ≠ .number numeral := by
    intro same
    simp [same] at pair
  rw [String.toList_append, scan_append extra.toList scanned notNumber]
  exact reads (scan extra.toList)

theorem decode_blanks {extra : String} (blank : IsBlanks extra.toList) :
    decode format.read (text ++ extra) = .ok value := by
  rw [decode_eq_ok, read_append composed decoded, scan_eq_finished.mpr blank.isBlank]

theorem decode_extended {extra : String} (notBlank : ¬IsBlanks extra.toList) :
    decode format.read (text ++ extra) = .error (.grammar .malformed) := by
  rw [decode, read_append composed decoded]
  cases left : scan extra.toList with
  | finished => exact absurd (isBlanks_iff.mpr (scan_eq_finished.mp left)) notBlank
  | token | broken | brokenText => rfl

end RecordFormat

end Json

namespace Snapshot

theorem ofText_error {text : String} {error : ReadError}
    (failed : decode format.read text = .error error) : ofText text = .error (.unreadable error) := by
  rw [ofText, failed]

/-- A text of a snapshot has a fault of grammar wherever it is cut off in front of its closing
bracket. It is malformed when it goes on with more than blanks, and the same as before when it goes
on with blanks. -/
theorem ofText_truncated_or_extended {text : String} {snapshot : Snapshot}
    (decoded : decode format.read text = .ok snapshot) :
    ∃ front back, text.toList = front ++ back ∧ Bracketed front back ∧
      (∀ part, part <+: front → ∃ fault,
        ofText (String.ofList part) = .error (.unreadable (.grammar fault))) ∧
      (∀ extra, ¬IsBlanks extra.toList →
        ofText (text ++ extra) = .error (.unreadable (.grammar .malformed))) ∧
      ∀ extra, IsBlanks extra.toList → ofText (text ++ extra) = ofText text := by
  have composed : ∀ field ∈ format.fields, Composed field.read := RecordKind.snapshot.composed
  obtain ⟨front, back, split, bracketed⟩ := RecordFormat.decode_bracketed composed decoded
  refine ⟨front, back, split, bracketed, ?truncated, ?extended, ?blank⟩
  case truncated =>
      intro part isPart
      obtain ⟨inner, rfl⟩ := isPart
      have within : ¬IsBlanks (inner ++ back) := by
        intro blank
        apply bracketed.back_notBlank
        intro char member
        exact blank char (List.mem_append_right inner member)
      rw [List.append_assoc] at split
      obtain ⟨fault, failed⟩ := RecordFormat.decode_cut composed decoded split within
      exact ⟨fault, ofText_error failed⟩
  case extended =>
      intro extra notBlank
      exact ofText_error (RecordFormat.decode_extended composed decoded notBlank)
  case blank =>
      intro extra blank
      rw [ofText, ofText, RecordFormat.decode_blanks composed decoded blank, decoded]

/-- This text has both forms of records, an escaped pair, and a nested value under an unknown key;
its numbers and lists are complete at many of its cuts. -/
def nestedText : String :=
  " [[], [[\"u1\",\"A\"]],\n[\x7b\"note\":[1e3,\x7b\"\\ud83d\\ude00\":null\x7d]," ++
  "\"userId\":\"u1\",\"score\":62.5,\"skill\":\"\\ud83d\\ude00\"\x7d]]\n"

def nestedSnapshot : Snapshot where
  courses := []
  enrollments := [⟨⟨"u1"⟩, ⟨"A"⟩, false⟩]
  challengeResults := [⟨⟨"u1"⟩, .ofRatio false 125 2 Nat.zero_lt_two, "😀"⟩]

/-- The nested text is only read as a whole. -/
theorem nestedText_whole :
    decode format.read nestedText = .ok nestedSnapshot ∧
      ∃ front back, nestedText.toList = front ++ back ∧ Bracketed front back ∧
        (∀ part, part <+: front → ∃ fault,
          ofText (String.ofList part) = .error (.unreadable (.grammar fault))) ∧
        (∀ extra, ¬IsBlanks extra.toList →
          ofText (nestedText ++ extra) = .error (.unreadable (.grammar .malformed))) ∧
        ∀ extra, IsBlanks extra.toList → ofText (nestedText ++ extra) = ofText nestedText := by
  have decoded : decode format.read nestedText = .ok nestedSnapshot := by decide +kernel
  exact ⟨decoded, ofText_truncated_or_extended decoded⟩

end Snapshot

end CourseAdvisor
