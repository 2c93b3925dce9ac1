import Swarm.Net.Link
import Swarm.Tracker.Announce
import Swarm.Tracker.Http.Body
import Swarm.Tracker.Http.Response

/-!
# HTTP announces

An announce over HTTP is one request and one reply on a connection of their own; the tracker closes
the connection after the reply.
-/

namespace Swarm.Tracker.Http

open Swarm.Net (Dialing Endpoint Fault Link Stream)
open Swarm.Time (Duration)

/-- The limits on an exchange. -/
structure Limits where
  /-- How long to wait for a connection, and for each read or write. -/
  timeout : Duration
  /-- The largest reply. -/
  maxResponse : Nat
deriving DecidableEq

/-- Five seconds and a mebibyte. -/
def Limits.standard : Limits := ⟨.ofSecs 5, 1024 * 1024⟩

/-- The name of this client in requests. -/
def userAgent : String := "bitfetch/0.1.0"

/-- Adds a query to a path, which may have one already. -/
def addQuery (path query : String) : String :=
  path ++ (if path.toList.contains '?' then "&" else "?") ++ query

/-- A host, with its port unless that is the usual one. -/
def authority (host : String) (port : UInt16) : String :=
  if port = 80 then host else s!"{host}:{port.toNat}"

/-- The text of a request: the request line, four header lines, and an empty line. -/
def requestText (host : String) (port : UInt16) (path : String) (a : Announce) : String :=
  let target := addQuery (if path.isEmpty then "/" else path) a.query
  "GET " ++ target ++ " HTTP/1.1\r\n" ++
  "Host: " ++ authority host port ++ "\r\n" ++
  "User-Agent: " ++ userAgent ++ "\r\n" ++
  "Accept: */*\r\n" ++
  "Connection: close\r\n\r\n"

/-- The whole reply, which ends when the tracker closes the connection. -/
def collect (tracker : String) (limits : Limits) (s : Stream) : Except Error Bytes :=
  if limits.maxResponse < s.unread.length then .error (.responseTooLarge limits.maxResponse)
  else
    match s.ending with
    | .closed => .ok s.unread
    | .silent => .error (.timeout tracker limits.timeout)
    | .broken f => .error (.fault tracker f)

/-- The peers in a whole reply. -/
def readReply (raw : Bytes) : Except Error (List Endpoint) :=
  match Response.ofBytes raw with
  | .error e => .error (.malformedHttp e)
  | .ok r =>
    match checkStatus r.status with
    | .error e => .error (.malformedHttp e)
    | .ok () => readBody r.body

/-- Announces over a connection that was dialled. The answer comes with the connection as it was
left, if there was one. -/
def announce (host : String) (port : UInt16) (path : String) (limits : Limits) (a : Announce)
    (dialing : Dialing) : Except Error (List Endpoint) × Option Link :=
  let tracker := s!"{host}:{port.toNat}"
  match dialing with
  | .failed f => (.error (.fault tracker f), none)
  | .silent => (.error (.timeout tracker limits.timeout), none)
  | .connected link =>
    match link.send (Bytes.ofText (requestText host port path a)) with
    | .error f => (.error (.fault tracker f), some link)
    | .ok link =>
      match collect tracker limits link.incoming with
      | .error e => (.error e, some link)
      | .ok raw => (readReply raw, some link)

end Swarm.Tracker.Http
