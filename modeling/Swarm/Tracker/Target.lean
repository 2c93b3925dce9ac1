import Swarm.Tracker.Error
import Swarm.Url.Basic

/-!
# Targets

Where an announce URL points: a UDP tracker, an HTTP tracker with a path, or an HTTPS tracker. What is
a URL, and what its parts are, is up to a parser.
-/

namespace Swarm.Tracker

/-- Where an announce URL points. -/
inductive Target where
  | udp (host : String) (port : UInt16)
  | http (host : String) (port : UInt16) (path : String)
  | https (url : String)
deriving DecidableEq

namespace Target

/-- The path of a URL with its query. -/
def pathAndQuery (u : Url) : String :=
  match u.query with
  | some q => s!"{u.path}?{q}"
  | none => u.path

/-- Reads an announce URL. -/
def ofUrl (parse : Url.Parser) (announce : String) : Except Error Target :=
  match parse announce with
  | .error reason => .error (.invalidUrl announce reason)
  | .ok u =>
    match u.host.filter (!·.isEmpty) with
    | none => .error (.invalidUrl announce "missing host")
    | some host =>
      match u.scheme with
      | "udp" =>
        match u.port with
        | none => .error (.invalidUrl announce "udp tracker needs a port")
        | some port => .ok (.udp host port)
      | "http" => .ok (.http host (u.port.getD 80) (pathAndQuery u))
      | "https" => .ok (.https announce)
      | scheme => .error (.unsupportedScheme scheme)

end Target

end Swarm.Tracker
