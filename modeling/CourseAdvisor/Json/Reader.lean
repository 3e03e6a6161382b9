/-
This file reads scalars and lists from a tape.
-/

import CourseAdvisor.Json.ReadError

namespace CourseAdvisor.Json

/-- A reader takes a value from the front of a tape and leaves the rest. -/
abbrev Reader (α : Type) := Tape → Except ReadError (α × Tape)

namespace Tape

/-- This is the error of a tape that does not start with the expected value.
A scalar is read completely before its type is found wrong. -/
def unfit (expected : Expected) : Tape → ReadError
  | .finished => .grammar .ended
  | .broken decoding _ => .grammar decoding
  | .brokenText decoding _ => .grammar decoding
  | .token .null _ => .misfit (.wrongType .null expected)
  | .token (.boolean value) _ => .misfit (.wrongType (.boolean value) expected)
  | .token (.number numeral) _ =>
      match numeral.value? with
      | some value => .misfit (.wrongType (numeral.found value) expected)
      | none => .grammar .malformed
  | .token (.text (some content)) _ => .misfit (.wrongType (.text content) expected)
  | .token .openList _ => .misfit (.wrongType .list expected)
  | .token .openObject _ => .misfit (.wrongType .object expected)
  | .token _ _ => .grammar .malformed

/-- This is the error of a tape that does not start with the punctuation that must come. -/
def misplaced : Tape → ReadError
  | .finished => .grammar .ended
  | _ => .grammar .malformed

/-- This is the error of a tape that does not start with a key; a key is always decoded. -/
def keyless : Tape → ReadError
  | .finished => .grammar .ended
  | .brokenText decoding _ => .grammar decoding
  | _ => .grammar .malformed

end Tape

def readText : Reader String
  | .token (.text (some content)) rest => .ok (content, rest)
  | tape => .error (tape.unfit .text)

def readBoolean : Reader Bool
  | .token (.boolean value) rest => .ok (value, rest)
  | tape => .error (tape.unfit .boolean)

def readNumber : Reader Double
  | .token (.number numeral) rest =>
      match numeral.value? with
      | some value => .ok (value, rest)
      | none => .error (.grammar .malformed)
  | tape => .error (tape.unfit .number)

/-- Null stands for no value. -/
def readOptional {α : Type} (reader : Reader α) : Reader (Option α)
  | .token .null rest => .ok (none, rest)
  | tape => do
      let (value, rest) ← reader tape
      return (some value, rest)

def readMapped {α β : Type} (convert : α → β) (reader : Reader α) : Reader β := fun tape => do
  let (value, rest) ← reader tape
  return (convert value, rest)

/-- The items go on as long as commas follow; each takes a token, so the tape is fuel enough. -/
def readItems {α : Type} (reader : Reader α) : Nat → Reader (List α)
  | 0, tape => .error tape.misplaced
  | fuel + 1, tape => do
      let (item, rest) ← reader tape
      match rest with
      | .token .closeList rest => return ([item], rest)
      | .token .comma rest =>
          let (items, rest) ← readItems reader fuel rest
          return (item :: items, rest)
      | rest => throw rest.misplaced

def readList {α : Type} (reader : Reader α) : Reader (List α)
  | .token .openList (.token .closeList rest) => .ok ([], rest)
  | .token .openList rest => readItems reader (rest.length + 1) rest
  | tape => .error (tape.unfit .list)

def readColon : Tape → Except ReadError Tape
  | .token .colon rest => .ok rest
  | tape => .error tape.misplaced

end CourseAdvisor.Json
