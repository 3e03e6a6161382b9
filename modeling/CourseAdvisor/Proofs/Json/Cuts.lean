/-
This file proves that readers never take a tape that is cut off for one that fits less well: they
read on as before, or they find a fault of grammar.
-/

import CourseAdvisor.Proofs.Json.Locality

namespace CourseAdvisor.Json

variable {α β : Type}

/-- No token is left on this tape. -/
inductive Tape.Ended : Tape → Prop
  | finished : Ended .finished
  | broken {decoding skipping : Fault} : Ended (.broken decoding skipping)
  | brokenText {decoding skipping : Fault} : Ended (.brokenText decoding skipping)

/-- The second tape is the first one cut off before a token or within one. A number that is cut
off may still be a number. -/
inductive Cut : Tape → Tape → Prop
  | ended {head : Token} {rest left : Tape} (ended : left.Ended) : Cut (.token head rest) left
  | shortened {whole part : Numeral} {rest : Tape} :
      Cut (.token (.number whole) rest) (.token (.number part) .finished)
  | later {head : Token} {rest left : Tape} (cut : Cut rest left) :
      Cut (.token head rest) (.token head left)

/-- After a number that is cut off, nothing is left. -/
def CutShort (rest left : Tape) : Prop := Cut rest left ∨ left = .finished

/-- This is a good value or a fault of grammar. -/
def FaultOr (good : β → Prop) : Except ReadError β → Prop
  | .ok value => good value
  | .error (.grammar _) => True
  | .error (.misfit _) => False

theorem FaultOr.mono {good better : β → Prop} {result : Except ReadError β}
    (faultOr : FaultOr good result) (implied : ∀ value, good value → better value) :
    FaultOr better result := by
  cases result with
  | ok value => exact implied value faultOr
  | error error =>
      cases error with
      | grammar => trivial
      | misfit => exact faultOr

/-- A second step is taken only with a good value of the first. -/
theorem FaultOr.bind {γ : Type} {good : β → Prop} {better : γ → Prop}
    {first : Except ReadError β} {next : β → Except ReadError γ} (faultOr : FaultOr good first)
    (further : ∀ value, good value → FaultOr better (next value)) :
    FaultOr better (first >>= next) := by
  cases first with
  | ok value => exact further value faultOr
  | error error =>
      cases error with
      | grammar => trivial
      | misfit => exact faultOr.elim

/-- Nothing good comes of a tape without tokens but a fault. -/
theorem FaultOr.fault {good : β → Prop} {result : Except ReadError β}
    (faultOr : FaultOr (fun _ => False) result) : FaultOr good result :=
  faultOr.mono fun _ => False.elim

/-- Where nothing good can come, a fault is found. -/
theorem FaultOr.exists_fault {result : Except ReadError β}
    (faultOr : FaultOr (fun _ => False) result) : ∃ fault, result = .error (.grammar fault) := by
  cases result with
  | ok value => exact faultOr.elim
  | error error =>
      cases error with
      | grammar fault => exact ⟨fault, rfl⟩
      | misfit => exact faultOr.elim

/-- What is cut off at a token other than a number ends there or goes on. -/
theorem CutShort.cases_token {head : Token} {rest left : Tape}
    (short : CutShort (.token head rest) left) (notNumber : ∀ numeral, head ≠ .number numeral) :
    left.Ended ∨ ∃ after, left = .token head after ∧ Cut rest after := by
  obtain cut | rfl := short
  · cases cut with
    | ended ended => exact .inl ended
    | shortened => exact absurd rfl (notNumber _)
    | later cut => exact .inr ⟨_, rfl, cut⟩
  · exact .inl .finished

/-- A reader senses a cut when it finds no misfit where the whole tape is read: without any token
it finds a fault, and otherwise it may leave what the cut leaves. -/
structure Senses (reader : Reader α) : Prop where
  ended : ∀ ⦃tape⦄, tape.Ended → FaultOr (fun _ => False) (reader tape)
  cut : ∀ ⦃tape left value rest⦄, reader tape = .ok (value, rest) → Cut tape left →
    FaultOr (fun taken => CutShort rest taken.2) (reader left)

theorem Senses.text : Senses readText where
  ended _ ended := by cases ended <;> trivial
  cut tape left value rest read cut := by
    unfold readText at read
    split at read
    case h_1 =>
        cases read
        cases cut with
        | ended ended => cases ended <;> trivial
        | later cut => exact .inl cut
    case h_2 => cases read

theorem Senses.boolean : Senses readBoolean where
  ended _ ended := by cases ended <;> trivial
  cut tape left value rest read cut := by
    unfold readBoolean at read
    split at read
    case h_1 =>
        cases read
        cases cut with
        | ended ended => cases ended <;> trivial
        | later cut => exact .inl cut
    case h_2 => cases read

theorem Senses.number : Senses readNumber where
  ended _ ended := by cases ended <;> trivial
  cut tape left value rest read cut := by
    unfold readNumber at read
    split at read
    case h_1 numeral rest =>
        split at read
        case h_1 known =>
            cases read
            cases cut with
            | ended ended => cases ended <;> trivial
            | @shortened _ part _ =>
                cases shown : part.value? with
                | none => simp [readNumber, shown, FaultOr]
                | some value => simp [readNumber, shown, FaultOr, CutShort]
            | later cut => simp [readNumber, known, FaultOr, CutShort, cut]
        case h_2 => cases read
    case h_2 => cases read

theorem Senses.mapped {convert : α → β} {reader : Reader α} (senses : Senses reader) :
    Senses (readMapped convert reader) where
  ended _ ended := (senses.ended ended).bind fun _ => False.elim
  cut tape left value rest read cut := by
    obtain ⟨⟨taken, after⟩, first, last⟩ := bind_eq_ok read
    cases last
    exact (senses.cut first cut).bind fun _ short => short

/-- Without null at its start, a value is read as such. -/
theorem readOptional_present {reader : Reader α} {tape : Tape}
    (present : ∀ rest, tape ≠ .token .null rest) :
    readOptional reader tape = readMapped some reader tape := by
  unfold readOptional
  split
  case h_1 => exact absurd rfl (present _)
  case h_2 => rfl

theorem Tape.Ended.no_token {tape : Tape} (ended : tape.Ended) (head : Token) (rest : Tape) :
    tape ≠ .token head rest := by
  cases ended <;> exact Tape.noConfusion

theorem Senses.optional {reader : Reader α} (senses : Senses reader) :
    Senses (readOptional reader) where
  ended tape ended := by
    rw [readOptional_present (ended.no_token .null)]
    exact (senses.mapped).ended ended
  cut tape left value rest read cut := by
    by_cases absent : ∃ after, tape = .token .null after
    case pos =>
        obtain ⟨after, rfl⟩ := absent
        cases read
        cases cut with
        | ended ended =>
            rw [readOptional_present (ended.no_token .null)]
            exact (senses.mapped.ended ended).fault
        | later cut => exact .inl cut
    case neg =>
        rw [readOptional_present (not_exists.mp absent)] at read
        rw [readOptional_present]
        · exact senses.mapped.cut read cut
        · rintro after rfl
          cases cut with
          | ended ended => exact absurd rfl (ended.no_token _ _)
          | later => exact absent ⟨_, rfl⟩

theorem misplaced_fault {good : β → Prop} (tape : Tape) : FaultOr good (.error tape.misplaced) := by
  cases tape <;> trivial

theorem keyless_fault {good : β → Prop} (tape : Tape) : FaultOr good (.error tape.keyless) := by
  cases tape <;> trivial

/-- Items of a list that is cut off are read up to the cut. -/
theorem readItems_cut {reader : Reader α} (senses : Senses reader) {fuel less : Nat}
    {tape left rest : Tape} {values : List α} (read : readItems reader fuel tape = .ok (values, rest))
    (cut : Cut tape left) :
    FaultOr (fun taken => Cut rest taken.2) (readItems reader less left) := by
  induction less generalizing fuel tape left values with
  | zero => exact misplaced_fault left
  | succ less ih =>
      cases fuel with
      | zero => cases read
      | succ fuel =>
          obtain ⟨⟨item, after⟩, first, others⟩ := bind_eq_ok read
          refine (senses.cut first cut).bind ?_
          rintro ⟨other, going⟩ short
          dsimp only at others short ⊢
          split at others
          case h_1 =>
              cases others
              obtain ended | ⟨beyond, rfl, cut⟩ := short.cases_token (by simp)
              · cases ended <;> trivial
              · exact cut
          case h_2 =>
              obtain ⟨⟨items, _⟩, further, last⟩ := bind_eq_ok others
              cases last
              obtain ended | ⟨beyond, rfl, cut⟩ := short.cases_token (by simp)
              · cases ended <;> trivial
              · exact (ih further cut).bind fun _ cut => cut
          case h_3 => cases others

/-- Without any token there is no item. -/
theorem readItems_ended {reader : Reader α} (senses : Senses reader) (fuel : Nat) {tape : Tape}
    (ended : tape.Ended) : FaultOr (fun _ => False) (readItems reader fuel tape) := by
  cases fuel with
  | zero => exact misplaced_fault tape
  | succ fuel => exact (senses.ended ended).bind fun _ => False.elim

/-- A list that is cut off is cut off in front of its closing bracket, or after it. -/
theorem readList_cut {reader : Reader α} (senses : Senses reader) {tape left rest : Tape}
    {values : List α} (read : readList reader tape = .ok (values, rest)) (cut : Cut tape left) :
    FaultOr (fun taken => Cut rest taken.2) (readList reader left) := by
  unfold readList at read
  split at read
  case h_1 =>
      cases read
      cases cut with
      | ended ended => cases ended <;> trivial
      | later cut =>
          cases cut with
          | ended ended => cases ended <;> exact (readItems_ended senses _ (by constructor)).fault
          | later cut => exact cut
  case h_2 unclosed =>
      cases cut with
      | ended ended => cases ended <;> trivial
      | later cut =>
          unfold readList
          split
          case h_1 same =>
              obtain ⟨-, rfl⟩ := Tape.token.inj same
              cases cut with
              | ended ended => cases ended
              | later => exact absurd rfl (unclosed _)
          case h_2 same =>
              obtain ⟨-, rfl⟩ := Tape.token.inj same
              exact readItems_cut senses read cut
          case h_3 notOpened => exact absurd rfl (notOpened _)
  case h_3 => cases read

theorem Senses.list {reader : Reader α} (senses : Senses reader) : Senses (readList reader) where
  ended _ ended := by cases ended <;> trivial
  cut _ _ _ _ read cut := (readList_cut senses read cut).mono fun _ => .inl

/-- Skipping a tape without tokens ends at once, or finds a fault. -/
theorem skipFrom_ended (awaited : Awaited) (nests : List Nest) {tape : Tape} (ended : tape.Ended) :
    FaultOr (· = tape) (skipFrom awaited nests tape) := by
  by_cases finished : awaited = .separator ∧ nests = []
  · cases ended <;> simp [skipFrom, finished, FaultOr]
  · cases ended <;> simp [skipFrom, finished, FaultOr]

/-- What is skipped is skipped up to the cut. -/
theorem skipFrom_cut {awaited : Awaited} {nests : List Nest} {tape left rest : Tape}
    (skipped : skipFrom awaited nests tape = .ok rest) (cut : Cut tape left) :
    FaultOr (CutShort rest) (skipFrom awaited nests left) := by
  induction cut generalizing awaited nests with
  | @ended head after left ended =>
      by_cases finished : awaited = .separator ∧ nests = []
      case pos =>
          rw [skipFrom, if_pos finished] at skipped
          cases skipped
          refine (skipFrom_ended awaited nests ended).mono ?_
          rintro _ rfl
          exact .inl (.ended ended)
      case neg =>
          cases ended <;> simp [skipFrom, finished, FaultOr]
  | @shortened whole part after =>
      rw [skipFrom] at skipped ⊢
      split at skipped
      case isTrue finished =>
          cases skipped
          rw [if_pos finished]
          exact .inl .shortened
      case isFalse unfinished =>
          rw [if_neg unfinished]
          have same : awaited.advance nests (.number part) =
            awaited.advance nests (.number whole) := rfl
          rw [same]
          split at skipped
          case h_1 next inner advanced =>
              refine (skipFrom_ended next inner .finished).mono ?_
              rintro _ rfl
              exact .inr rfl
          case h_2 => cases skipped
  | @later head after left cut ih =>
      rw [skipFrom] at skipped ⊢
      split at skipped
      case isTrue finished =>
          cases skipped
          rw [if_pos finished]
          exact .inl (.later cut)
      case isFalse unfinished =>
          rw [if_neg unfinished]
          split at skipped
          case h_1 next inner advanced => exact ih skipped
          case h_2 => cases skipped

theorem readColon_cut {tape left rest : Tape} (read : readColon tape = .ok rest)
    (cut : Cut tape left) : FaultOr (Cut rest) (readColon left) := by
  unfold readColon at read
  split at read
  case h_1 =>
      cases read
      cases cut with
      | ended ended => cases ended <;> trivial
      | later cut => exact cut
  case h_2 => cases read

namespace RecordFormat

variable {format : RecordFormat α}

/-- A member that is cut off has the same key, and leaves what the cut leaves. -/
theorem readMember_cut (senses : ∀ field ∈ format.fields, Senses field.read)
    {seen later : List String} {key : String} {tape left rest : Tape} {update : α → α}
    (read : format.readMember seen key tape = .ok (update, later, rest)) (cut : Cut tape left) :
    FaultOr (fun taken => taken.2.1 = later ∧ CutShort rest taken.2.2)
      (format.readMember seen key left) := by
  unfold readMember at read ⊢
  split at read
  case h_1 field known =>
      split at read
      case isTrue => cases read
      case isFalse fresh =>
          obtain ⟨after, colon, others⟩ := bind_eq_ok read
          obtain ⟨⟨taken, beyond⟩, first, last⟩ := bind_eq_ok others
          cases last
          have isField := senses field (List.mem_of_find?_eq_some known)
          rw [if_neg fresh]
          refine (readColon_cut colon cut).bind fun going cut => ?_
          exact (isField.cut first cut).bind fun _ short => ⟨rfl, short⟩
  case h_2 unknown =>
      obtain ⟨after, colon, others⟩ := bind_eq_ok read
      obtain ⟨beyond, skipped, last⟩ := bind_eq_ok others
      cases last
      refine (readColon_cut colon cut).bind fun going cut => ?_
      exact (skipFrom_cut skipped cut).bind fun _ short => ⟨rfl, short⟩

/-- Whether fields are missing does not depend on the values of the others. -/
theorem finish_cut {seen : List String} {record value other : α} {rest after left : Tape}
    (finished : format.finish seen record after = .ok (value, rest)) (cut : Cut after left) :
    FaultOr (fun taken => Cut rest taken.2) (format.finish seen other left) := by
  unfold finish at finished ⊢
  split at finished
  case h_1 => cases finished
  case h_2 complete =>
      cases finished
      exact cut

/-- Members of an object that is cut off are read up to the cut. -/
theorem readMembers_cut (senses : ∀ field ∈ format.fields, Senses field.read) {fuel less : Nat}
    {seen : List String} {record value other : α} {tape left rest : Tape}
    (read : format.readMembers fuel seen record tape = .ok (value, rest)) (cut : Cut tape left) :
    FaultOr (fun taken => Cut rest taken.2) (format.readMembers less seen other left) := by
  induction less generalizing fuel seen record other tape left with
  | zero => exact keyless_fault left
  | succ less ih =>
      cases fuel with
      | zero => cases read
      | succ fuel =>
          unfold readMembers at read
          split at read
          case h_1 key after =>
              obtain ⟨⟨update, later, beyond⟩, first, others⟩ := bind_eq_ok read
              dsimp only at others
              cases cut with
              | ended ended => cases ended <;> trivial
              | later cut =>
                  refine (readMember_cut senses first cut).bind ?_
                  rintro ⟨change, seen, going⟩ ⟨rfl, short⟩
                  dsimp only at short ⊢
                  split at others
                  case h_1 =>
                      obtain ended | ⟨_, rfl, cut⟩ := short.cases_token (by simp)
                      · cases ended <;> trivial
                      · exact finish_cut others cut
                  case h_2 =>
                      obtain ended | ⟨_, rfl, cut⟩ := short.cases_token (by simp)
                      · cases ended <;> trivial
                      · exact ih others cut
                  case h_3 => cases others
          case h_2 => cases read

/-- Without any token there is no field. -/
theorem readPositions_ended {fields : List (Field α)}
    (senses : ∀ field ∈ fields, Senses field.read) (count : Nat) (record : α) {tape : Tape}
    (ended : tape.Ended) :
    FaultOr (fun _ => False) (format.readPositions count record fields tape) := by
  cases fields with
  | nil => cases ended <;> trivial
  | cons field fields =>
      rw [readPositions_cons (ended.no_token .closeList)]
      split
      case isTrue =>
          exact ((senses field List.mem_cons_self).ended ended).bind fun _ => False.elim
      case isFalse => cases ended <;> trivial

/-- The fields of a list that is cut off are read up to the cut. -/
theorem readPositions_cut {fields : List (Field α)}
    (senses : ∀ field ∈ fields, Senses field.read) {count : Nat} {record value other : α}
    {tape left rest : Tape} (read : format.readPositions count record fields tape = .ok (value, rest))
    (cut : Cut tape left) :
    FaultOr (fun taken => Cut rest taken.2) (format.readPositions count other fields left) := by
  induction fields generalizing count record other tape left with
  | nil =>
      unfold readPositions at read
      split at read
      case h_1 =>
          cases read
          cases cut with
          | ended ended => cases ended <;> trivial
          | later cut => exact cut
      case h_2 => cases read
      all_goals contradiction
  | cons field fields ih =>
      have others : ∀ field ∈ fields, Senses field.read := fun other member =>
        senses other (List.mem_cons_of_mem field member)
      have further {tape left : Tape} (read : (field.read tape >>= fun taken =>
          format.readPositions (count + 1) (taken.1 record) fields taken.2) = .ok (value, rest))
          (cut : Cut tape left) : FaultOr (fun taken => Cut rest taken.2)
            (field.read left >>= fun taken =>
              format.readPositions (count + 1) (taken.1 other) fields taken.2) := by
        obtain ⟨⟨update, beyond⟩, first, last⟩ := bind_eq_ok read
        refine ((senses field List.mem_cons_self).cut first cut).bind ?_
        rintro ⟨change, going⟩ (cut | rfl)
        · exact ih others last cut
        · exact (readPositions_ended others _ _ .finished).fault
      by_cases closed : ∃ after, tape = .token .closeList after
      case pos =>
          obtain ⟨after, rfl⟩ := closed
          rw [readPositions] at read
          split at read
          case isTrue defaults =>
              cases read
              cases cut with
              | ended ended => exact (readPositions_ended senses _ _ ended).fault
              | later cut =>
                  rw [readPositions, if_pos defaults]
                  exact cut
          case isFalse => cases read
      case neg =>
          have unclosed (after : Tape) : left ≠ .token .closeList after := by
            rintro rfl
            cases cut with
            | ended ended => exact ended.no_token _ _ rfl
            | later => exact closed ⟨_, rfl⟩
          rw [readPositions_cons (not_exists.mp closed)] at read
          rw [readPositions_cons unclosed]
          by_cases first : count = 0
          case pos =>
              rw [if_pos first] at read ⊢
              exact further read cut
          case neg =>
              rw [if_neg first] at read ⊢
              split at read
              case h_1 =>
                  cases cut with
                  | ended ended => cases ended <;> trivial
                  | later cut => exact further read cut
              case h_2 => cases read

/-- A record that is cut off is cut off before it ends, or leaves what the cut leaves. -/
theorem read_cut (senses : ∀ field ∈ format.fields, Senses field.read) {tape left rest : Tape}
    {value : α} (read : format.read tape = .ok (value, rest)) (cut : Cut tape left) :
    FaultOr (fun taken => Cut rest taken.2) (format.read left) := by
  unfold RecordFormat.read at read
  split at read
  case h_1 after =>
      cases cut with
      | ended ended => cases ended <;> trivial
      | later cut =>
          cases cut with
          | ended ended => cases ended <;> trivial
          | later cut => exact finish_cut read cut
  case h_2 unclosed =>
      cases cut with
      | ended ended => cases ended <;> trivial
      | later cut =>
          unfold RecordFormat.read
          split
          case h_1 same =>
              obtain ⟨-, rfl⟩ := Tape.token.inj same
              cases cut with
              | ended ended => cases ended
              | later => exact absurd rfl (unclosed _)
          case h_2 same =>
              obtain ⟨-, rfl⟩ := Tape.token.inj same
              exact readMembers_cut senses read cut
          case h_3 same => cases same
          case h_4 notOpened _ => exact absurd rfl (notOpened _)
  case h_3 =>
      cases cut with
      | ended ended => cases ended <;> trivial
      | later cut => exact readPositions_cut senses read cut
  case h_4 => cases read

end RecordFormat

theorem Senses.record {format : RecordFormat α}
    (senses : ∀ field ∈ format.fields, Senses field.read) : Senses format.read where
  ended _ ended := by cases ended <;> trivial
  cut _ _ _ _ read cut := (RecordFormat.read_cut senses read cut).mono fun _ => .inl

theorem Composed.senses {reader : Reader α} (composed : Composed reader) : Senses reader := by
  induction composed with
  | text => exact .text
  | boolean => exact .boolean
  | number => exact .number
  | mapped _ ih => exact .mapped ih
  | optional _ ih => exact .optional ih
  | list _ ih => exact .list ih
  | record _ ih => exact .record ih

end CourseAdvisor.Json
