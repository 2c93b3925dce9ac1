import Swarm.Tracker.Http.Exchange

/-!
# HTTPS announces

An announce over HTTPS is one request that a library makes. The library hands over the status, the
length that the reply declares and, when asked for it, the body.
-/

namespace Swarm.Tracker.Https

open Swarm.Net (Endpoint)

/-- What the library hands over of a reply. -/
structure Answer where
  status : UInt16
  /-- The length that the reply declares for its body. -/
  length : Option Nat
  /-- The body, or why it could not be read to its end. -/
  body : Except LibraryFault Bytes

/-- The URL that is requested: that of the tracker with the query of the announce. -/
def target (url : String) (a : Announce) : String := Http.addQuery url a.query

/-- The peers in an answer. A reply that declares too long a body is refused before its body is read. -/
def readAnswer (limits : Http.Limits) (answer : Answer) : Except Error (List Endpoint) :=
  match Http.checkStatus answer.status.toNat with
  | .error e => .error (.malformedHttp e)
  | .ok () =>
    if answer.length.any (limits.maxResponse < ·) then .error (.responseTooLarge limits.maxResponse)
    else
      match answer.body with
      | .error f => .error (.https f)
      | .ok body =>
        if limits.maxResponse < body.length then .error (.responseTooLarge limits.maxResponse)
        else Http.readBody body

/-- The outcome of an announce, given what came of the request. -/
def outcome (limits : Http.Limits) : Except LibraryFault Answer → Except Error (List Endpoint)
  | .error f => .error (.https f)
  | .ok answer => readAnswer limits answer

end Swarm.Tracker.Https
