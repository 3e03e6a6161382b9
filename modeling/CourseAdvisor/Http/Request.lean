/-
This file defines requests and the identity that they carry.
-/

import CourseAdvisor.Learner.History

namespace CourseAdvisor.Http

/-- Header values are bytes. The target is a path that a query or a fragment may follow;
before the path of an absolute target stand a scheme and an authority. -/
structure Request where
  method : String
  target : String
  headers : List (String × List UInt8)

/-- These are the paths that the service knows. -/
inductive Route where
  | health
  | rules
  | recommendations
  deriving DecidableEq

def Route.path : Route → String
  | .health => "/api/health"
  | .rules => "/api/rules"
  | .recommendations => "/api/recommendations"

/-- This header carries the verified id of the learner. -/
def identityHeader : String := "x-learner-id"

/-- Only these bytes may stand in the text of a header. -/
def isVisible (byte : UInt8) : Bool :=
  byte == 0x09 || (decide (0x20 ≤ byte) && decide (byte ≤ 0x7e))

def isPadding (byte : UInt8) : Bool := byte == 0x09 || byte == 0x20

/-- Padding at both ends is left out. -/
def trimmed (value : List UInt8) : List UInt8 :=
  ((value.dropWhile isPadding).reverse.dropWhile isPadding).reverse

/-- A scheme is made of these characters. -/
def isSchemeChar (char : Char) : Bool :=
  char.isAlphanum || char == '+' || char == '-' || char == '.'

/-- A query or a fragment ends the path. -/
def endsPath (char : Char) : Bool := char == '?' || char == '#'

/-- An absolute target goes on like a plain one after its authority. -/
def withoutAuthority (target : List Char) : List Char :=
  match target.dropWhile isSchemeChar with
  | ':' :: '/' :: '/' :: located =>
      located.dropWhile fun char => !(char == '/' || endsPath char)
  | _ => target

namespace Request

/-- Only the path plays a part in the choice of the route. -/
def path (request : Request) : String :=
  String.ofList ((withoutAuthority request.target.toList).takeWhile fun char => !endsPath char)

def route? (request : Request) : Option Route :=
  [Route.health, .rules, .recommendations].find? fun route => route.path == request.path

/-- Reading is the only thing that a route offers. -/
def isReading (request : Request) : Bool := request.method == "GET" || request.method == "HEAD"

/-- The letter case of a header name does not matter. -/
def header? (request : Request) (name : String) : Option (List UInt8) :=
  (request.headers.find? fun header => header.1.toLower == name).map Prod.snd

/-- The first identity header counts, when it is visible and not blank. -/
def learner? (request : Request) : Option LearnerId := do
  let value ← request.header? identityHeader
  guard (value.all isVisible)
  let name := trimmed value
  guard !name.isEmpty
  return ⟨String.ofList (name.map fun byte => Char.ofNat byte.toNat)⟩

end Request

end CourseAdvisor.Http
