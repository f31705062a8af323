import SourceAttest.Fault.Basic

/-!
# HTTP calls

What a call asks and what comes back. A network is a function of the calls made before and the call
at hand, so it may answer the same call differently at different times.
-/
namespace SourceAttest

inductive HttpMethod where
  | get
  | post
deriving Repr, DecidableEq

/-- A call of the outside world. Only posts have a body; the URL may be any value. -/
structure HttpRequest where
  method : HttpMethod
  url : Json
  body : Option Json
  timeout : Json
deriving Repr

/-- What a call gets: no answer, or an answer with a status and a text. -/
inductive HttpReply where
  | failed (reason : String)
  | answered (status : Int) (phrase : String) (text : String)
deriving Repr

/-- A network answers a call in the light of the calls made before it. -/
abbrev Network := List HttpRequest → HttpRequest → HttpReply

/-- Seconds after which a call is given up. -/
def defaultTimeout : Json := .int 30

namespace HttpReply

/-- The complaint about a status of the four or five hundreds. -/
def statusComplaint? (url : Json) (status : Int) (phrase : String) : Option String :=
  if 400 ≤ status ∧ status < 500 then
    some (toString status ++ " Client Error: " ++ phrase ++ " for url: " ++ url.plain)
  else if 500 ≤ status ∧ status < 600 then
    some (toString status ++ " Server Error: " ++ phrase ++ " for url: " ++ url.plain)
  else none

/-- The text of an answer whose status is no complaint, or the reason why there is none. -/
def accepted (url : Json) : HttpReply → Except String String
  | .failed reason => .error reason
  | .answered status phrase text =>
    match statusComplaint? url status phrase with
    | some complaint => .error complaint
    | none => .ok text

end HttpReply

end SourceAttest
