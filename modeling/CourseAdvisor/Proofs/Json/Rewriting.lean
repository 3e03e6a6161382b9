/-
This file proves that a reader which sees no difference in rewritten texts reads a rewritten tape
as before.
-/

import CourseAdvisor.Proofs.Json.Cuts

namespace CourseAdvisor.Json

variable {α β : Type}

/-- In a nest that is open, the next value comes at an item or under a key, or a key comes first. -/
inductive Spot where
  | item (index : Nat)
  | key
  | value (key : Option String)
  deriving DecidableEq

/-- The spots in the open nests lead to what comes next, from the innermost nest outwards. -/
abbrev Trail : Type := List Spot

namespace Trail

/-- A token opens or closes a nest, moves on to the next spot or gives the key of a value. -/
def after (trail : Trail) (head : Token) : Trail :=
  match head, trail with
  | .openList, _ => .item 0 :: trail
  | .openObject, _ => .key :: trail
  | .closeList, _ :: outer => outer
  | .closeObject, _ :: outer => outer
  | .comma, .item index :: outer => .item (index + 1) :: outer
  | .comma, .value _ :: outer => .key :: outer
  | .text content, .key :: outer => .value content :: outer
  | _, _ => trail

/-- A key comes next. -/
def isKey : Trail → Bool
  | .key :: _ => true
  | _ => false

end Trail

/-- This rewrites the texts that are values, depending on the trail that leads to them. -/
abbrev Rewriting : Type := Trail → String → String

/-- Keys are never rewritten. -/
def Token.rewritten (rewrite : Rewriting) (trail : Trail) : Token → Token
  | .text (some content) =>
      .text (some (if Trail.isKey trail then content else rewrite trail content))
  | head => head

/-- This rewrites a tape from the trail that leads to its start. -/
def Tape.rewritten (rewrite : Rewriting) (trail : Trail) : Tape → Tape
  | .token head rest =>
      .token (head.rewritten rewrite trail) (rest.rewritten rewrite (Trail.after trail head))
  | tape => tape

/-- This rewrites what a reader has left. -/
def leaving (rewrite : Rewriting) (trail : Trail) (result : α × Tape) : α × Tape :=
  (result.1, result.2.rewritten rewrite trail)

/-- A reader is steady where it reads a rewritten tape as before and leaves the rest rewritten. -/
def Steady (rewrite : Rewriting) (trail : Trail) (reader : Reader α) : Prop :=
  ∀ tape, reader (tape.rewritten rewrite trail) = (reader tape).map (leaving rewrite trail)

/-- Nothing is rewritten at this spot. -/
def Silent (rewrite : Rewriting) (trail : Trail) : Prop := ∀ content, rewrite trail content = content

/-- Nothing is rewritten at this spot nor in any nest that opens at it. -/
def Away (rewrite : Rewriting) (trail : Trail) : Prop := ∀ inner, Silent rewrite (inner ++ trail)

theorem Away.silent {rewrite : Rewriting} {trail : Trail} (away : Away rewrite trail) :
    Silent rewrite trail :=
  away []

theorem Away.inside {rewrite : Rewriting} {trail : Trail} (away : Away rewrite trail)
    (spot : Spot) : Away rewrite (spot :: trail) := by
  intro inner
  have silent := away (inner ++ [spot])
  rwa [List.append_assoc, List.singleton_append] at silent

section

variable {rewrite : Rewriting} {trail : Trail}

theorem Token.rewritten_silent (silent : Silent rewrite trail) (head : Token) :
    head.rewritten rewrite trail = head := by
  unfold rewritten
  split
  case h_1 content =>
      rw [silent, ite_self]
  case h_2 => rfl

theorem Tape.rewritten_length (tape : Tape) :
    (tape.rewritten rewrite trail).length = tape.length := by
  induction tape generalizing trail with
  | token head rest ih => rw [rewritten, length, length, ih]
  | finished | broken | brokenText => rfl

/-- Only texts are rewritten, so what is no text starts a rewritten tape as before. -/
theorem Tape.rewritten_starts {head : Token} (notText : ∀ content, head ≠ .text content)
    {tape : Tape} (unstarted : ∀ left, tape ≠ .token head left) (left : Tape) :
    tape.rewritten rewrite trail ≠ .token head left := by
  cases tape with
  | token other rest =>
      intro same
      rw [rewritten] at same
      have sameHead := (Tape.token.inj same).1
      unfold Token.rewritten at sameHead
      split at sameHead
      case h_1 => exact notText _ sameHead.symm
      case h_2 => exact unstarted rest (by rw [sameHead])
  | finished | broken | brokenText => exact Tape.noConfusion

theorem Tape.misplaced_rewritten (tape : Tape) :
    (tape.rewritten rewrite trail).misplaced = tape.misplaced := by
  cases tape <;> rfl

theorem Tape.keyless_rewritten (tape : Tape) :
    (tape.rewritten rewrite trail).keyless = tape.keyless := by
  cases tape <;> rfl

/-- After a scalar the same spot is left. -/
theorem Trail.after_scalar (notKey : Trail.isKey trail = false) {head : Token}
    (isScalar : head.isScalar = true) : Trail.after trail head = trail := by
  unfold Trail.after
  split
  case h_7 => cases notKey
  case h_8 => rfl
  all_goals cases isScalar

theorem Steady.text (silent : Silent rewrite trail) (notKey : Trail.isKey trail = false) :
    Steady rewrite trail readText := by
  intro tape
  cases tape with
  | token head rest =>
      rw [Tape.rewritten, Token.rewritten_silent silent]
      cases head with
      | text content =>
          rw [Trail.after_scalar notKey rfl]
          cases content <;> rfl
      | null | boolean | number | openList | closeList | openObject | closeObject | comma | colon =>
          rfl
  | finished | broken | brokenText => rfl

theorem Steady.boolean (silent : Silent rewrite trail) (notKey : Trail.isKey trail = false) :
    Steady rewrite trail readBoolean := by
  intro tape
  cases tape with
  | token head rest =>
      rw [Tape.rewritten, Token.rewritten_silent silent]
      cases head with
      | boolean value =>
          rw [Trail.after_scalar notKey rfl]
          rfl
      | text content => cases content <;> rfl
      | null | number | openList | closeList | openObject | closeObject | comma | colon => rfl
  | finished | broken | brokenText => rfl

theorem Steady.number (silent : Silent rewrite trail) (notKey : Trail.isKey trail = false) :
    Steady rewrite trail readNumber := by
  intro tape
  cases tape with
  | token head rest =>
      rw [Tape.rewritten, Token.rewritten_silent silent]
      cases head with
      | number numeral =>
          rw [Trail.after_scalar notKey rfl, readNumber, readNumber]
          cases numeral.value? <;> rfl
      | text content => cases content <;> rfl
      | null | boolean | openList | closeList | openObject | closeObject | comma | colon => rfl
  | finished | broken | brokenText => rfl

/-- A text may be rewritten where it is converted as before. -/
theorem Steady.converted {convert : String → β} (notKey : Trail.isKey trail = false)
    (same : ∀ content, convert (rewrite trail content) = convert content) :
    Steady rewrite trail (readMapped convert readText) := by
  intro tape
  cases tape with
  | token head rest =>
      rw [Tape.rewritten]
      cases head with
      | text content =>
          rw [Trail.after_scalar notKey rfl]
          cases content with
          | some content =>
              rw [Token.rewritten, notKey]
              exact congrArg (fun value => Except.ok (value, _)) (same content)
          | none => rfl
      | null | boolean | number | openList | closeList | openObject | closeObject | comma | colon =>
          rfl
  | finished | broken | brokenText => rfl

theorem Steady.mapped {convert : α → β} {reader : Reader α}
    (steady : Steady rewrite trail reader) : Steady rewrite trail (readMapped convert reader) := by
  intro tape
  unfold readMapped
  rw [steady tape]
  cases reader tape <;> rfl

theorem Steady.optional {reader : Reader α} (notKey : Trail.isKey trail = false)
    (steady : Steady rewrite trail reader) : Steady rewrite trail (readOptional reader) := by
  intro tape
  by_cases absent : ∃ rest, tape = .token .null rest
  case pos =>
      obtain ⟨rest, rfl⟩ := absent
      rw [Tape.rewritten, Trail.after_scalar notKey rfl]
      rfl
  case neg =>
      have present := not_exists.mp absent
      rw [readOptional_present present,
        readOptional_present (Tape.rewritten_starts (by simp) present)]
      exact steady.mapped tape

/-- The items after the first come at the next spots. -/
theorem readItems_rewritten {reader : Reader α}
    (steady : ∀ index, Steady rewrite (.item index :: trail) reader) (fuel index : Nat)
    (tape : Tape) :
    readItems reader fuel (tape.rewritten rewrite (.item index :: trail)) =
      (readItems reader fuel tape).map (leaving rewrite trail) := by
  induction fuel generalizing index tape with
  | zero => exact congrArg Except.error (Tape.misplaced_rewritten tape)
  | succ fuel ih =>
      rw [readItems, readItems, steady index tape]
      cases reader tape with
      | error fault => rfl
      | ok taken =>
          obtain ⟨item, rest⟩ := taken
          cases rest with
          | token head rest =>
              cases head with
              | comma =>
                  show (readItems reader fuel
                    (rest.rewritten rewrite (.item (index + 1) :: trail)) >>= _) = _
                  rw [ih]
                  show _ = Except.map (leaving rewrite trail) (readItems reader fuel rest >>= _)
                  cases readItems reader fuel rest <;> rfl
              | text content => cases content <;> rfl
              | null | boolean | number | openList | closeList | openObject | closeObject | colon =>
                  rfl
          | finished | broken | brokenText => rfl

theorem Steady.list {reader : Reader α} (silent : Silent rewrite trail)
    (steady : ∀ index, Steady rewrite (.item index :: trail) reader) :
    Steady rewrite trail (readList reader) := by
  intro tape
  cases tape with
  | token head rest =>
      rw [Tape.rewritten, Token.rewritten_silent silent]
      cases head with
      | openList =>
          by_cases closed : ∃ left, rest = .token .closeList left
          case pos =>
              obtain ⟨left, rfl⟩ := closed
              rfl
          case neg =>
              have unclosed := not_exists.mp closed
              rw [readList_open unclosed,
                readList_open (Tape.rewritten_starts (by simp) unclosed), Tape.rewritten_length]
              exact readItems_rewritten steady _ 0 rest
      | text content => cases content <;> rfl
      | null | boolean | number | closeList | openObject | closeObject | comma | colon => rfl
  | finished | broken | brokenText => rfl

/-- Skipping asks for no content. -/
theorem Awaited.advance_rewritten (awaited : Awaited) (nests : List Nest) (head : Token) :
    awaited.advance nests (head.rewritten rewrite trail) = awaited.advance nests head := by
  cases head with
  | text content => cases content <;> rfl
  | null | boolean | number | openList | closeList | openObject | closeObject | comma | colon => rfl

/-- Each nest that skipping has open has its spot. -/
theorem Trail.after_advance {awaited next : Awaited} {nests others : List Nest} {head : Token}
    (advanced : awaited.advance nests head = some (next, others))
    (notKey : Trail.isKey trail = false) {inner : Trail} (same : inner.length = nests.length) :
    ∃ left : Trail, Trail.after (inner ++ trail) head = left ++ trail ∧
      left.length = others.length := by
  -- A token that closes a nest or separates its parts changes the innermost spot alone.
  have within {nest : Nest} {outer : List Nest} (nested : nests = nest :: outer) :
      ∃ spot left, inner = spot :: left ∧ left.length = outer.length := by
    rw [nested] at same
    obtain ⟨spot, left, rfl⟩ := List.exists_cons_of_length_eq_add_one same
    exact ⟨spot, left, rfl, Nat.succ.inj same⟩
  cases head with
  | null | boolean | number | colon =>
      simp only [Awaited.advance, Option.ite_none_right_eq_some, Option.some.injEq,
        Prod.mk.injEq] at advanced
      obtain ⟨-, -, rfl⟩ := advanced
      exact ⟨inner, rfl, same⟩
  | text content =>
      have unchanged : others = nests := by
        simp only [Awaited.advance] at advanced
        split at advanced
        · exact (congrArg Prod.snd (Option.some.inj advanced)).symm
        · split at advanced
          · exact (congrArg Prod.snd (Option.some.inj advanced)).symm
          · cases advanced
      rw [unchanged]
      cases inner with
      | nil => exact ⟨[], Trail.after_scalar notKey rfl, same⟩
      | cons spot left =>
          cases spot with
          | key => exact ⟨.value content :: left, rfl, same⟩
          | item | value => exact ⟨_ :: left, rfl, same⟩
  | openList | openObject =>
      simp only [Awaited.advance, Option.ite_none_right_eq_some, Option.some.injEq,
        Prod.mk.injEq] at advanced
      obtain ⟨-, -, rfl⟩ := advanced
      exact ⟨_ :: inner, rfl, congrArg Nat.succ same⟩
  | closeList | closeObject =>
      simp only [Awaited.advance] at advanced
      split at advanced
      case h_3 => cases advanced
      all_goals
        obtain ⟨-, rfl⟩ := Prod.mk.inj (Option.some.inj advanced)
        obtain ⟨spot, left, rfl, lengths⟩ := within rfl
        exact ⟨left, rfl, lengths⟩
  | comma =>
      simp only [Awaited.advance] at advanced
      split at advanced
      case h_3 => cases advanced
      all_goals
        obtain ⟨-, rfl⟩ := Prod.mk.inj (Option.some.inj advanced)
        obtain ⟨spot, left, rfl, lengths⟩ := within rfl
        refine ⟨(Trail.after [spot] .comma) ++ left, ?_, ?_⟩
        · cases spot <;> rfl
        · cases spot <;> exact congrArg Nat.succ lengths

/-- What is skipped is skipped in a rewritten tape. -/
theorem skipFrom_rewritten (notKey : Trail.isKey trail = false) (awaited : Awaited)
    {nests : List Nest} {inner : Trail} (same : inner.length = nests.length) (tape : Tape) :
    skipFrom awaited nests (tape.rewritten rewrite (inner ++ trail)) =
      (skipFrom awaited nests tape).map (Tape.rewritten rewrite trail) := by
  induction tape generalizing awaited nests inner with
  | token head rest ih =>
      by_cases finished : awaited = .separator ∧ nests = []
      case pos =>
          obtain ⟨rfl, rfl⟩ := finished
          obtain rfl := List.length_eq_zero_iff.mp same
          rw [skipFrom_done, skipFrom_done]
          rfl
      case neg =>
          rw [Tape.rewritten, skipFrom, skipFrom, if_neg finished, if_neg finished,
            Awaited.advance_rewritten]
          cases advanced : awaited.advance nests head with
          | none => rfl
          | some going =>
              obtain ⟨next, others⟩ := going
              obtain ⟨left, trails, lengths⟩ := Trail.after_advance advanced notKey same
              simp only [trails]
              exact ih next lengths
  | finished | broken | brokenText =>
      rw [Tape.rewritten, skipFrom]
      · split <;> rfl
      all_goals simp

theorem readColon_rewritten (tape : Tape) :
    readColon (tape.rewritten rewrite trail) =
      (readColon tape).map (Tape.rewritten rewrite trail) := by
  cases tape with
  | token head rest =>
      cases head with
      | colon => rfl
      | text content => cases content <;> rfl
      | null | boolean | number | openList | closeList | openObject | closeObject | comma => rfl
  | finished | broken | brokenText => rfl

namespace RecordFormat

variable {format : RecordFormat α}

theorem finish_rewritten (seen : List String) (record : α) (rest : Tape) :
    format.finish seen record (rest.rewritten rewrite trail) =
      (format.finish seen record rest).map (leaving rewrite trail) := by
  unfold finish
  cases format.missing? seen <;> rfl

/-- A member is read or skipped under its key as before. -/
theorem readMember_rewritten
    (byKey : ∀ field ∈ format.fields,
      Steady rewrite (.value (some field.key) :: trail) field.read)
    (seen : List String) (key : String) (tape : Tape) :
    format.readMember seen key (tape.rewritten rewrite (.value (some key) :: trail)) =
      (format.readMember seen key tape).map fun result =>
        (result.1, result.2.1, result.2.2.rewritten rewrite (.value (some key) :: trail)) := by
  unfold readMember
  cases known : format.field? key with
  | some field =>
      have same : field.key = key := by simpa using List.find?_some known
      have steady := byKey field (List.mem_of_find?_eq_some known)
      rw [same] at steady
      dsimp only
      split
      case isTrue => rfl
      case isFalse =>
          rw [readColon_rewritten]
          cases readColon tape with
          | error fault => rfl
          | ok rest =>
              show (field.read (rest.rewritten rewrite _) >>= _) =
                Except.map _ (field.read rest >>= _)
              rw [steady rest]
              cases field.read rest <;> rfl
  | none =>
      dsimp only
      rw [readColon_rewritten]
      cases readColon tape with
      | error fault => rfl
      | ok rest =>
          show (skipFrom .value [] (rest.rewritten rewrite ([] ++ _)) >>= _) =
            Except.map _ (skipFrom .value [] rest >>= _)
          rw [skipFrom_rewritten rfl .value rfl rest]
          cases skipFrom .value [] rest <;> rfl

theorem readMembers_rewritten
    (byKey : ∀ field ∈ format.fields,
      Steady rewrite (.value (some field.key) :: trail) field.read)
    (fuel : Nat) (seen : List String) (record : α) (tape : Tape) :
    format.readMembers fuel seen record (tape.rewritten rewrite (.key :: trail)) =
      (format.readMembers fuel seen record tape).map (leaving rewrite trail) := by
  induction fuel generalizing seen record tape with
  | zero => exact congrArg Except.error (Tape.keyless_rewritten tape)
  | succ fuel ih =>
      cases tape with
      | token head rest =>
          cases head with
          | text content =>
              cases content with
              | none => rfl
              | some key =>
                  show (format.readMember seen key
                    (rest.rewritten rewrite (.value (some key) :: trail)) >>= _) =
                      Except.map _ (format.readMember seen key rest >>= _)
                  rw [readMember_rewritten byKey]
                  cases format.readMember seen key rest with
                  | error fault => rfl
                  | ok taken =>
                      obtain ⟨update, later, left⟩ := taken
                      cases left with
                      | token next left =>
                          cases next with
                          | closeObject => exact finish_rewritten later (update record) left
                          | comma => exact ih later (update record) left
                          | text content => cases content <;> rfl
                          | null | boolean | number | openList | closeList | openObject | colon =>
                              rfl
                      | finished | broken | brokenText => rfl
          | null | boolean | number | openList | closeList | openObject | closeObject | comma
          | colon => rfl
      | finished | broken | brokenText => rfl

/-- The fields of a list form come at the items of a list. -/
theorem readPositions_rewritten {fields : List (Field α)} {count : Nat}
    (byPosition : ∀ index field, fields[index]? = some field →
      Steady rewrite (.item (count + index) :: trail) field.read)
    (record : α) (tape : Tape) :
    format.readPositions count record fields (tape.rewritten rewrite (.item (count - 1) :: trail)) =
      (format.readPositions count record fields tape).map (leaving rewrite trail) := by
  induction fields generalizing count record tape with
  | nil =>
      cases tape with
      | token head rest =>
          cases head with
          | text content => cases content <;> rfl
          | null | boolean | number | openList | closeList | openObject | closeObject | comma
          | colon => rfl
      | finished | broken | brokenText => rfl
  | cons field fields ih =>
      have first : Steady rewrite (.item count :: trail) field.read := byPosition 0 field rfl
      have others (index : Nat) (other : Field α) (isOther : fields[index]? = some other) :
          Steady rewrite (.item (count + 1 + index) :: trail) other.read := by
        have steady := byPosition (index + 1) other isOther
        rwa [show count + (index + 1) = count + 1 + index by omega] at steady
      have further (tape : Tape) :
          (field.read (tape.rewritten rewrite (.item count :: trail)) >>= fun taken =>
            format.readPositions (count + 1) (taken.1 record) fields taken.2) =
              (field.read tape >>= fun taken =>
                format.readPositions (count + 1) (taken.1 record) fields taken.2).map
                  (leaving rewrite trail) := by
        rw [first tape]
        cases field.read tape with
        | error fault => rfl
        | ok taken => exact ih others (taken.1 record) taken.2
      by_cases closed : ∃ left, tape = .token .closeList left
      case pos =>
          obtain ⟨left, rfl⟩ := closed
          show format.readPositions count record (field :: fields)
            (.token .closeList (left.rewritten rewrite trail)) = _
          rw [readPositions, readPositions]
          split <;> rfl
      case neg =>
          have unclosed := not_exists.mp closed
          rw [readPositions_cons unclosed,
            readPositions_cons (Tape.rewritten_starts (by simp) unclosed)]
          by_cases isFirst : count = 0
          case pos =>
              subst isFirst
              exact further tape
          case neg =>
              rw [if_neg isFirst, if_neg isFirst]
              cases tape with
              | token head rest =>
                  cases head with
                  | comma =>
                      have next : count - 1 + 1 = count := by omega
                      show (field.read (rest.rewritten rewrite (.item (count - 1 + 1) :: trail)) >>=
                        _) = _
                      rw [next]
                      exact further rest
                  | text content => cases content <;> rfl
                  | null | boolean | number | openList | closeList | openObject | closeObject
                  | colon => rfl
              | finished | broken | brokenText => rfl

end RecordFormat

/-- A record is steady when its fields are, both under their keys and at their positions. -/
theorem Steady.record {format : RecordFormat α} (silent : Silent rewrite trail)
    (byKey : ∀ field ∈ format.fields,
      Steady rewrite (.value (some field.key) :: trail) field.read)
    (byPosition : ∀ index field, format.fields[index]? = some field →
      Steady rewrite (.item index :: trail) field.read) :
    Steady rewrite trail format.read := by
  intro tape
  cases tape with
  | token head rest =>
      rw [Tape.rewritten, Token.rewritten_silent silent]
      cases head with
      | openObject =>
          by_cases closed : ∃ left, rest = .token .closeObject left
          case pos =>
              obtain ⟨left, rfl⟩ := closed
              exact RecordFormat.finish_rewritten [] format.blank left
          case neg =>
              have unclosed := not_exists.mp closed
              rw [RecordFormat.read_open unclosed,
                RecordFormat.read_open (Tape.rewritten_starts (by simp) unclosed),
                Tape.rewritten_length]
              exact RecordFormat.readMembers_rewritten byKey _ [] format.blank rest
      | openList =>
          have positions (index : Nat) (field : Field α)
              (isField : format.fields[index]? = some field) :
              Steady rewrite (.item (0 + index) :: trail) field.read := by
            rw [Nat.zero_add]
            exact byPosition index field isField
          exact RecordFormat.readPositions_rewritten positions format.blank rest
      | text content => cases content <;> rfl
      | null | boolean | number | closeList | closeObject | comma | colon => rfl
  | finished | broken | brokenText => rfl

/-- In a record, texts may be rewritten in one field, at its position and under its key. -/
theorem Steady.field {format : RecordFormat α}
    (distinct : (format.fields.map (·.key)).Nodup) {position : Nat} {field : Field α}
    (found : format.fields[position]? = some field) (silent : Silent rewrite trail)
    (here : ∀ spot ∈ [Spot.item position, .value (some field.key)],
      Steady rewrite (spot :: trail) field.read)
    (elsewhere : ∀ spot ∉ [Spot.item position, .value (some field.key)],
      Trail.isKey (spot :: trail) = false → ∀ other ∈ format.fields,
        Steady rewrite (spot :: trail) other.read) :
    Steady rewrite trail format.read := by
  apply Steady.record silent
  case byKey =>
      intro other isOther
      by_cases same : other.key = field.key
      case pos =>
          rw [List.inj_on_of_nodup_map distinct isOther (List.mem_of_getElem? found) same]
          exact here _ (by simp)
      case neg => exact elsewhere _ (by simpa using same) rfl other isOther
  case byPosition =>
      intro index other isOther
      by_cases same : index = position
      case pos =>
          rw [same] at isOther ⊢
          rw [Option.some.inj (isOther.symm.trans found)]
          exact here _ (by simp)
      case neg => exact elsewhere _ (by simpa using same) rfl other (List.mem_of_getElem? isOther)

end

/-- A reader is steady away from all texts that are rewritten. -/
theorem Composed.steady {rewrite : Rewriting} {reader : Reader α} (composed : Composed reader)
    {trail : Trail} (away : Away rewrite trail) (notKey : Trail.isKey trail = false) :
    Steady rewrite trail reader := by
  induction composed generalizing trail with
  | text => exact .text away.silent notKey
  | boolean => exact .boolean away.silent notKey
  | number => exact .number away.silent notKey
  | mapped _ ih => exact .mapped (ih away notKey)
  | optional _ ih => exact .optional notKey (ih away notKey)
  | list _ ih => exact .list away.silent fun index => ih (away.inside (.item index)) rfl
  | record _ ih =>
      apply Steady.record away.silent
      · exact fun field isField => ih field isField (away.inside (.value (some field.key))) rfl
      · intro index field found
        exact ih field (List.mem_of_getElem? found) (away.inside (.item index)) rfl

/-- Tapes that go on alike once they are rewritten are alike once they are rewritten. -/
theorem Tape.rewritten_push {rewrite : Rewriting} {trail : Trail} {rest other : Tape}
    (tokens : List Token)
    (same : rest.rewritten rewrite (tokens.foldl Trail.after trail) =
      other.rewritten rewrite (tokens.foldl Trail.after trail)) :
    (Tape.push tokens rest).rewritten rewrite trail =
      (Tape.push tokens other).rewritten rewrite trail := by
  induction tokens generalizing trail with
  | nil => exact same
  | cons head tokens ih =>
      rw [push_cons, push_cons, rewritten, rewritten, ih same]

/-- Texts whose tapes are alike once they are rewritten are decoded alike. -/
theorem Steady.decode_congr {rewrite : Rewriting} {reader : Reader α}
    (steady : Steady rewrite [] reader) {text other : String}
    (same : (scan text.toList).rewritten rewrite [] = (scan other.toList).rewritten rewrite []) :
    decode reader text = decode reader other := by
  have alike := (steady (scan text.toList)).symm.trans
    ((congrArg reader same).trans (steady (scan other.toList)))
  unfold decode
  cases first : reader (scan text.toList) with
  | error fault =>
      cases second : reader (scan other.toList) with
      | error otherFault =>
          rw [first, second] at alike
          exact congrArg Except.error (Except.error.inj alike)
      | ok taken =>
          rw [first, second] at alike
          cases alike
  | ok taken =>
      cases second : reader (scan other.toList) with
      | error otherFault =>
          rw [first, second] at alike
          cases alike
      | ok otherTaken =>
          obtain ⟨value, rest⟩ := taken
          obtain ⟨otherValue, otherRest⟩ := otherTaken
          rw [first, second] at alike
          obtain ⟨rfl, sameRest⟩ := Prod.mk.inj (Except.ok.inj alike)
          cases rest <;> cases otherRest <;> first | rfl | cases sameRest

end CourseAdvisor.Json
