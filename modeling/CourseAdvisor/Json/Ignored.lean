/-
This file skips values that nobody asks for; they are checked for grammar alone, at any depth.
-/

import CourseAdvisor.Json.Reader

namespace CourseAdvisor.Json

/-- A nest is a list or an object that is still open. -/
inductive Nest where
  | list
  | object
  deriving DecidableEq

/-- This is what an ignored value may go on with. -/
inductive Awaited where
  | value
  | itemOrClose
  | keyOrClose
  | key
  | colon
  | separator
  deriving DecidableEq

namespace Awaited

/-- A value may start here. -/
def isValue (awaited : Awaited) : Bool := awaited == .value || awaited == .itemOrClose

/-- A key may start here. -/
def isKey (awaited : Awaited) : Bool := awaited == .key || awaited == .keyOrClose

/-- A complete value ends the skipping or waits for a separator in the nest around it. -/
def advance (awaited : Awaited) (nests : List Nest) (head : Token) :
    Option (Awaited × List Nest) :=
  match head with
  | .null | .boolean _ | .number _ => if awaited.isValue then some (.separator, nests) else none
  | .text _ =>
      if awaited.isValue then some (.separator, nests)
      else if awaited.isKey then some (.colon, nests)
      else none
  | .openList => if awaited.isValue then some (.itemOrClose, .list :: nests) else none
  | .openObject => if awaited.isValue then some (.keyOrClose, .object :: nests) else none
  | .colon => if awaited = .colon then some (.value, nests) else none
  | .comma =>
      match awaited, nests with
      | .separator, .list :: _ => some (.value, nests)
      | .separator, .object :: _ => some (.key, nests)
      | _, _ => none
  | .closeList =>
      match awaited, nests with
      | .separator, .list :: outer => some (.separator, outer)
      | .itemOrClose, .list :: outer => some (.separator, outer)
      | _, _ => none
  | .closeObject =>
      match awaited, nests with
      | .separator, .object :: outer => some (.separator, outer)
      | .keyOrClose, .object :: outer => some (.separator, outer)
      | _, _ => none

/-- A broken token has its own fault only where it could have stood. -/
def fault (awaited : Awaited) : Tape → Fault
  | .finished => .ended
  | .broken _ skipping => if awaited.isValue then skipping else .malformed
  | .brokenText _ skipping => if awaited.isValue || awaited.isKey then skipping else .malformed
  | .token _ _ => .malformed

end Awaited

/-- The value is complete when a separator is awaited and no nest is open. -/
def skipFrom (awaited : Awaited) (nests : List Nest) : Tape → Except ReadError Tape
  | .token head rest =>
      if awaited = .separator ∧ nests = [] then .ok (.token head rest)
      else
        match awaited.advance nests head with
        | some (next, inner) => skipFrom next inner rest
        | none => .error (.grammar .malformed)
  | tape =>
      if awaited = .separator ∧ nests = [] then .ok tape
      else .error (.grammar (awaited.fault tape))

/-- This skips one value. -/
def skipValue (tape : Tape) : Except ReadError Tape := skipFrom .value [] tape

end CourseAdvisor.Json
