import Swarm.Bencode.Error
import Swarm.Bencode.Node
import Swarm.Net.Fault
import Swarm.Time.Duration

/-!
# Failed announces

Why an announce does not yield a list of peers.
-/

namespace Swarm.Tracker

open Swarm.Net (Fault)
open Swarm.Time (Duration)

/-- What is wrong with an HTTP reply. -/
inductive HttpFault where
  | noSeparator
  | statusLine (line : String)
  | unterminatedSize
  | chunkSize (text : String)
  | shortChunk (declared remaining : Nat)
  | notDictionary (found : Bencode.Kind)
  | status (code : Nat)
deriving DecidableEq

/-- The words for such a fault. -/
def HttpFault.message : HttpFault → String
  | noSeparator => "no header/body separator"
  | statusLine line => s!"bad status line `{line}`"
  | unterminatedSize => "unterminated chunk size"
  | chunkSize text => s!"bad chunk size `{text}`"
  | shortChunk declared remaining =>
    s!"chunk declares {declared} bytes but only {remaining} remain"
  | notDictionary found => s!"tracker body is a {found.name}, not a dictionary"
  | status code => s!"tracker answered HTTP {code}"

/-- A failure of a library, in its own words, and what caused it, the outermost cause first. -/
structure LibraryFault where
  reason : String
  causes : List String
deriving DecidableEq

/-- Why an announce fails. -/
inductive Error where
  | invalidUrl (url reason : String)
  | unsupportedScheme (scheme : String)
  | resolve (host : String) (fault : Fault)
  | noAddress (host : String)
  /-- The connection to a tracker failed. -/
  | fault (tracker : String) (fault : Fault)
  /-- A tracker did not answer in time. -/
  | timeout (tracker : String) (limit : Duration)
  /-- A reply belongs to another request. -/
  | transactionMismatch (expected actual : UInt32)
  /-- A reply is of another kind. -/
  | actionMismatch (expected actual : UInt32)
  | shortResponse (expected actual : Nat)
  /-- A reply holds another amount of peer data than it declares. -/
  | peerCountMismatch (expected actual : Nat)
  /-- Peer data does not consist of six-byte records. -/
  | invalidPeers (length : Nat)
  /-- The tracker refuses, for a reason of its own. -/
  | refused (reason : String)
  | malformedHttp (fault : HttpFault)
  | responseTooLarge (limit : Nat)
  | decode (e : Bencode.Error)
  | missingPeers
  /-- The library for HTTPS reports a failure. -/
  | https (fault : LibraryFault)
deriving DecidableEq

namespace Error

/-- A word as eight hexadecimal digits. -/
def hexWord (w : UInt32) : String :=
  "0x" ++ (Bytes.word 4 w.toNat).hex

/-- The report of an error. -/
def message : Error → String
  | invalidUrl url reason => s!"invalid announce url `{url}`: {reason}"
  | unsupportedScheme scheme => s!"unsupported announce scheme `{scheme}`"
  | resolve host f => s!"failed to resolve tracker host `{host}`: {f.message}"
  | noAddress host => s!"tracker host `{host}` resolved to no IPv4 address"
  | fault tracker f => s!"socket error talking to tracker {tracker}: {f.message}"
  | timeout tracker limit => s!"tracker {tracker} did not answer within {limit.text}"
  | transactionMismatch expected actual =>
    s!"transaction id mismatch: sent {hexWord expected}, received {hexWord actual}"
  | actionMismatch expected actual =>
    s!"unexpected action in tracker reply: expected {expected.toNat}, received {actual.toNat}"
  | shortResponse expected actual =>
    s!"tracker reply too short: expected at least {expected} bytes, received {actual}"
  | peerCountMismatch expected actual =>
    s!"peer data is {actual} bytes, expected {expected} for the declared peer count"
  | invalidPeers length => s!"compact peer list length {length} is not a multiple of 6"
  | refused reason => s!"tracker returned failure: {reason}"
  | malformedHttp f => s!"malformed http response: {f.message}"
  | responseTooLarge limit => s!"http tracker response exceeds {limit} bytes"
  | decode e => s!"tracker response body is not valid bencode: {e.message}"
  | missingPeers => "tracker response is missing a byte-string `peers` key"
  | https f => s!"https tracker request failed: {f.reason}"

end Error

end Swarm.Tracker
