/-
This file proves that indented text is scanned as the tokens of the value that it holds.
-/

import CourseAdvisor.Proofs.Json.Reading

namespace CourseAdvisor.Json

/-- A new line and its indentation are blanks. -/
theorem newLine_blank (depth : Nat) : ∀ char ∈ newLine depth, isBlank char = true := by
  intro char member
  rcases List.mem_cons.mp member with rfl | indentation
  · rfl
  · rw [List.eq_of_mem_replicate indentation]
    rfl

/-- What follows a new line cannot carry on a numeral. -/
theorem delimited_newLine (depth : Nat) (rest : List Char) : Delimited (newLine depth ++ rest) :=
  .of_blank rfl _

/-- A new line leaves no trace on the tape. -/
theorem scan_newLine (depth : Nat) (rest : List Char) :
    scan (newLine depth ++ rest) = scan rest :=
  scan_blanks (newLine_blank depth) rest

/-- The tape of a closing bracket on a line of its own is its token and what follows. -/
theorem scan_closeLine {close : Char} {head : Token} (depth : Nat) (rest : List Char)
    (scanned : scanOne (close :: rest) = .token head rest) :
    scan (newLine depth ++ close :: rest) = .token head (scan rest) := by
  rw [scan_newLine, scan_token scanned]

/-- The tape of a key on a line of its own is its token, a colon and what follows a blank. -/
theorem scan_keyLine (depth : Nat) (key : String) (rest : List Char) :
    scan (newLine depth ++ (quoted key ++ ':' :: ' ' :: rest)) =
      (scan rest).push [.text (some key), .colon] := by
  rw [scan_newLine, scan_key, scan_blank rfl]

mutual

/-- The tape of an indented text is the tokens of its value and the tape of what follows. -/
theorem scan_pretty (value : Json) (depth : Nat) {rest : List Char} (delimited : Delimited rest) :
    scan (value.pretty depth ++ rest) = (scan rest).push value.tokens := by
  match value with
  | .list [] => exact scan_compact (.list []) delimited
  | .list (item :: items) =>
      have opened (text : List Char) : scan ('[' :: text) = .token .openList (scan text) :=
        scan_token rfl
      have written : (Json.list (item :: items)).pretty depth ++ rest =
          '[' :: (prettyItems (depth + 1) (item :: items) ++ (newLine depth ++ ']' :: rest)) := by
        simp [pretty]
      rw [written, opened, scan_prettyItems (item :: items) (List.cons_ne_nil _ _)]
      rfl
  | .object [] => exact scan_compact (.object []) delimited
  | .object (member :: members) =>
      have opened (text : List Char) :
          scan ('\x7b' :: text) = .token .openObject (scan text) := scan_token rfl
      have written : (Json.object (member :: members)).pretty depth ++ rest =
          '\x7b' :: (prettyMembers (depth + 1) (member :: members) ++
            (newLine depth ++ '\x7d' :: rest)) := by
        simp [pretty]
      rw [written, opened, scan_prettyMembers (member :: members) (List.cons_ne_nil _ _)]
      rfl
  | .null => exact scan_scalar .null delimited
  | .boolean value => exact scan_scalar (.boolean value) delimited
  | .integer value => exact scan_scalar (.integer value) delimited
  | .number value => exact scan_scalar (.number value) delimited
  | .text content => exact scan_scalar (.text content) delimited

theorem scan_prettyItems (items : List Json) (nonempty : items ≠ []) (depth outer : Nat)
    (rest : List Char) :
    scan (prettyItems depth items ++ (newLine outer ++ ']' :: rest)) =
      (scan rest).push (listTokens (tokensOfItems items)) := by
  match items with
  | [item] =>
      rw [prettyItems, List.append_assoc, scan_newLine,
        scan_pretty item depth (delimited_newLine outer _), scan_closeLine outer rest rfl]
      simp [tokensOfItems, listTokens]
  | item :: next :: others =>
      have further (text : List Char) : scan (',' :: text) = .token .comma (scan text) :=
        scan_token rfl
      have written : prettyItems depth (item :: next :: others) =
          newLine depth ++ (item.pretty depth ++ ',' :: prettyItems depth (next :: others)) := by
        simp [prettyItems]
      rw [written, List.append_assoc, scan_newLine, List.append_assoc, List.cons_append,
        scan_pretty item depth (delimited_punctuation (by simp) _), further,
        scan_prettyItems (next :: others) (List.cons_ne_nil _ _)]
      simp [tokensOfItems, listTokens]

theorem scan_prettyMembers (members : List (String × Json)) (nonempty : members ≠ [])
    (depth outer : Nat) (rest : List Char) :
    scan (prettyMembers depth members ++ (newLine outer ++ '\x7d' :: rest)) =
      (scan rest).push (objectTokens (tokensOfMembers members)) := by
  match members with
  | [(key, value)] =>
      have written : prettyMembers depth [(key, value)] ++ (newLine outer ++ '\x7d' :: rest) =
          newLine depth ++ (quoted key ++ ':' :: ' ' ::
            (value.pretty depth ++ (newLine outer ++ '\x7d' :: rest))) := by
        simp [prettyMembers]
      rw [written, scan_keyLine, scan_pretty value depth (delimited_newLine outer _),
        scan_closeLine outer rest rfl]
      simp [tokensOfMembers, objectTokens]
  | (key, value) :: next :: others =>
      have further (text : List Char) : scan (',' :: text) = .token .comma (scan text) :=
        scan_token rfl
      have written : prettyMembers depth ((key, value) :: next :: others) ++
          (newLine outer ++ '\x7d' :: rest) =
          newLine depth ++ (quoted key ++ ':' :: ' ' :: (value.pretty depth ++
            ',' :: (prettyMembers depth (next :: others) ++
              (newLine outer ++ '\x7d' :: rest)))) := by
        simp [prettyMembers]
      rw [written, scan_keyLine, scan_pretty value depth (delimited_punctuation (by simp) _),
        further, scan_prettyMembers (next :: others) (List.cons_ne_nil _ _)]
      simp [tokensOfMembers, objectTokens]

end

/-- Whatever blanks follow it, the tape of an indented text holds nothing but its value. -/
theorem scan_prettyText (value : Json) {blanks : List Char}
    (blank : ∀ char ∈ blanks, isBlank char = true) :
    scan (value.prettyText.toList ++ blanks) = Tape.push value.tokens .finished := by
  have nothing := scan_blanks blank []
  have delimited := Delimited.blanks blank (show Delimited [] from trivial)
  rw [List.append_nil] at nothing delimited
  rw [prettyText, String.toList_ofList, scan_pretty value 0 delimited, nothing, scan_nil]

/-- An indented text whose only value is read is decoded, with a new line after it or without. -/
theorem Reads.decoded_pretty {α : Type} {reader : Reader α} {value : Json} {result : α}
    (reads : Reads reader value.tokens result) {ending : String}
    (blank : ∀ char ∈ ending.toList, isBlank char = true) :
    decode reader (value.prettyText ++ ending) = .ok result := by
  rw [decode_eq_ok, String.toList_append, scan_prettyText value blank, reads]

end CourseAdvisor.Json
