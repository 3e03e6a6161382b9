/-
This file answers requests with the advice of one advisor.
-/

import CourseAdvisor.Advisor
import CourseAdvisor.Http.Request
import CourseAdvisor.Recommendation.Response

namespace CourseAdvisor

/-- This is the version that the program tells. -/
def version : String := "0.1.0"

namespace Http

/-- A reply to a request has a status, headers and a body. -/
structure Reply where
  status : Nat
  headers : List (String × String)
  body : String
  deriving DecidableEq

namespace Reply

/-- Every origin may read every reply. -/
def openToAll : String × String := ("access-control-allow-origin", "*")

def allowReading : String × String := ("allow", "GET,HEAD")

/-- This reply has no body. -/
def bare (status : Nat) (headers : List (String × String)) : Reply :=
  ⟨status, openToAll :: headers, ""⟩

/-- This reply carries a JSON value. -/
def json (status : Nat) (value : Json) : Reply :=
  ⟨status, [openToAll, ("content-type", "application/json")], value.compactText⟩

/-- A failure tells nothing but its message. -/
def failure (status : Nat) (message : String) : Reply :=
  .json status (.object [("status", .text "error"), ("message", .text message)])

/-- The body is left out when only the head is asked for. -/
def forMethod (method : String) (reply : Reply) : Reply :=
  if method = "HEAD" then { reply with body := "" } else reply

end Reply

/-- A service answers from one advisor and knows how long it has been running. -/
structure Service where
  advisor : Advisor
  uptimeSeconds : Nat

/-- An unreachable store is a passing failure. -/
def failureStatus : StoreError → Nat
  | .unavailable _ => 503
  | _ => 500

/-- The reply carries the recommendations, or the failure without its cause. -/
def recommendationsReply : Except StoreError (List Recommendation) → Reply
  | .error error => .failure (failureStatus error) "Failed to compute recommendations"
  | .ok recommendations =>
      match (Response.success recommendations).payload with
      | .error violation =>
          .failure 500 ("Invalid recommendation response: " ++ violation.message)
      | .ok payload => .json 200 payload

namespace Service

def healthReply (service : Service) : Reply :=
  .json 200 (.object [("status", .text "ok"), ("version", .text version),
    ("uptime_seconds", .integer service.uptimeSeconds)])

def rulesReply (service : Service) : Reply :=
  .json 200 (.object [("rules", .list (service.advisor.rules.names.map Json.text))])

/-- A route is read or the method is refused. -/
def reading (request : Request) (reply : Traced Reply) : Traced Reply :=
  if request.isReading then do
    let reply ← reply
    return reply.forMethod request.method
  else return .bare 405 [Reply.allowReading]

/-- Recommendations need an identity, whatever the method. -/
def recommendations (service : Service) (request : Request) : Traced Reply :=
  match request.learner? with
  | none => return .bare 401 (if request.isReading then [] else [Reply.allowReading])
  | some learner =>
      reading request do
        let answer ← service.advisor.recommend learner
        return recommendationsReply answer

/-- Every path tells browsers that all methods and headers may be tried. -/
def preflightReply (request : Request) : Reply :=
  .bare 200 ([("access-control-allow-methods", "*"), ("access-control-allow-headers", "*")] ++
    if request.route?.isSome then [Reply.allowReading] else [])

/-- This is the reply to a request. -/
def respond (service : Service) (request : Request) : Traced Reply :=
  if request.method = "OPTIONS" then return preflightReply request
  else
    match request.route? with
    | none => return .bare 404 []
    | some .health => reading request (pure service.healthReply)
    | some .rules => reading request (pure service.rulesReply)
    | some .recommendations => service.recommendations request

end Service

/-- This is the network address that a service listens on. -/
structure Address where
  host : String
  port : UInt16
  deriving DecidableEq

namespace Address

def standard : Address := ⟨"127.0.0.1", 7480⟩

def text (address : Address) : String := s!"{address.host}:{address.port}"

end Address

end Http

end CourseAdvisor
