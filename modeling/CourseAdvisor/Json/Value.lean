/-
This file defines JSON values, whose objects keep their members in order.
-/

import CourseAdvisor.Double.Basic

namespace CourseAdvisor

inductive Json where
  | null
  | boolean (value : Bool)
  | integer (value : Int)
  | number (value : Double)
  | text (content : String)
  | list (items : List Json)
  | object (members : List (String × Json))

namespace Json

instance : Inhabited Json := ⟨.null⟩

/-- This is the value of the first member with the key, when the value is an object. -/
def member? (key : String) : Json → Option Json
  | .object members => members.lookup key
  | _ => none

def isText : Json → Bool
  | .text _ => true
  | _ => false

/-- A member goes before the first member with a later key. -/
def placeMember (member : String × Json) : List (String × Json) → List (String × Json)
  | [] => [member]
  | head :: rest =>
      if member.1 < head.1 then member :: head :: rest else head :: placeMember member rest

mutual

/-- Every object in the value gets its members in the order of their keys. -/
def sorted : Json → Json
  | .list items => .list (sortedItems items)
  | .object members => .object (sortedMembers members)
  | value => value

def sortedItems : List Json → List Json
  | [] => []
  | item :: rest => item.sorted :: sortedItems rest

def sortedMembers : List (String × Json) → List (String × Json)
  | [] => []
  | (key, value) :: rest => placeMember (key, value.sorted) (sortedMembers rest)

end

end Json

end CourseAdvisor
