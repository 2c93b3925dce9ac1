import Swarm.Bencode.Decoder
import Swarm.Net.Address
import Swarm.Tracker.Error

/-!
# Bodies of HTTP replies

The body of a reply is a bencoded dictionary. It holds either the reason of a failure or the peers,
six bytes each.
-/

namespace Swarm.Tracker.Http

open Swarm.Bencode
open Swarm.Net (Endpoint)

/-- The peers in a list of six-byte records. -/
def readPeers (b : Bytes) : Except Error (List Endpoint) :=
  match Endpoint.list? b with
  | some peers => .ok peers
  | none => .error (.invalidPeers b.length)

/-- The peers in the dictionary of a body. -/
def peersOf (root : Node) : Except Error (List Endpoint) :=
  match root.entries? with
  | none => .error (.malformedHttp (.notDictionary root.kind))
  | some _ =>
    match root.lookup? (Bytes.ofText "failure reason") with
    | some reason =>
      .error (.refused ((reason.bytes?.map Text.Utf8.lossy).getD "unspecified"))
    | none =>
      match (root.lookup? (Bytes.ofText "peers")).bind Node.bytes? with
      | none => .error .missingPeers
      | some b => readPeers b

/-- The peers in a body; what follows its dictionary does not matter. -/
def readBody (body : Bytes) : Except Error (List Endpoint) :=
  match decode body with
  | .error e => .error (.decode e)
  | .ok root => peersOf root

end Swarm.Tracker.Http
