/-
This file defines why JSON text cannot be read as the value that is asked for.
-/

import CourseAdvisor.Double.Written
import CourseAdvisor.Json.Token
import CourseAdvisor.Text.Quoted

namespace CourseAdvisor.Json

/-- This is what stands in the text. -/
inductive Found where
  | null
  | boolean (value : Bool)
  | integer (value : Int)
  | floating (value : Double)
  | text (content : String)
  | list
  | object
  deriving DecidableEq

/-- This is what the reader asks for. -/
inductive Expected where
  | text
  | boolean
  | number
  | list
  | record (name : String)
  deriving DecidableEq

/-- A misfit is grammatical text of the wrong shape; some are known by a report alone. -/
inductive Misfit where
  | wrongType (found : Found) (expected : Expected)
  | missingField (key : String)
  | duplicateField (key : String)
  | wrongLength (count : Nat) (record : String) (fieldCount : Nat)
  | reported (report : String)
  deriving DecidableEq

inductive ReadError where
  | grammar (fault : Fault)
  | misfit (misfit : Misfit)
  deriving DecidableEq

/-- What is no integer is shown as the double that it stands for. -/
def Numeral.found (numeral : Numeral) (value : Double) : Found :=
  match numeral.integer? with
  | some exact => .integer exact
  | none => .floating value

def Found.description : Found → String
  | .null => "null"
  | .boolean value => s!"boolean `{value}`"
  | .integer value => s!"integer `{value}`"
  | .floating value => "floating point `" ++ value.text .interchange ++ "`"
  | .text content => "string " ++ Text.quoted content
  | .list => "sequence"
  | .object => "map"

def Expected.description : Expected → String
  | .text => "a string"
  | .boolean => "a boolean"
  | .number => "f64"
  | .list => "a sequence"
  | .record name => "struct " ++ name

def Misfit.message : Misfit → String
  | .wrongType found expected =>
      "invalid type: " ++ found.description ++ ", expected " ++ expected.description
  | .missingField key => "missing field `" ++ key ++ "`"
  | .duplicateField key => "duplicate field `" ++ key ++ "`"
  | .wrongLength count record fieldCount =>
      let elements := if fieldCount = 1 then "element" else "elements"
      s!"invalid length {count}, expected struct {record} with {fieldCount} {elements}"
  | .reported report => report

end CourseAdvisor.Json
