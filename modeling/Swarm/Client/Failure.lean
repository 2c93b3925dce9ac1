import Swarm.Client.Config
import Swarm.Torrent.Metainfo

/-!
# Failed runs

Why a run fails, and the report of it: a headline, and below it the causes from the outermost to the
innermost one.
-/

namespace Swarm.Client

open Swarm.Net (Endpoint Fault)

/-- Why a run fails. -/
inductive Failure where
  | configuration (p : Problem)
  | unreadable (path : String) (fault : Fault)
  | torrent (e : Torrent.Error)
  | outOfRange (index count : Nat)
  /-- No tracker handed out peers; the error is that of the last tracker that failed. -/
  | noPeers (last : Option Tracker.Error)
  | noSession (tried : Nat)
  | noSize (index : Nat)
  | noHash (index : Nat)
  | download (index : Nat) (peer : Endpoint) (e : Peer.DownloadError)
  | corrupt (index : Nat) (peer : Endpoint) (e : Peer.DownloadError)
deriving DecidableEq

/-- A failed announce and what caused it. -/
def trackerCauses (e : Tracker.Error) : List String :=
  e.message ::
    match e with
    | .resolve _ f | .fault _ f => [f.message]
    | .decode d => [d.message]
    | .https f => f.reason :: f.causes
    | _ => []

/-- A failed download and what caused it. -/
def downloadCauses (peer : Endpoint) (e : Peer.DownloadError) : List String :=
  e.message peer.text ::
    match e with
    | .send f | .receive f => [f.message]
    | _ => []

namespace Failure

/-- The headline of a failure. -/
def headline : Failure → String
  | configuration _ => "Invalid configuration"
  | unreadable .. | torrent _ => "Failed to load torrent file"
  | outOfRange index count => s!"Piece {index} out of range: torrent has {count} pieces"
  | noPeers _ => "Failed to obtain peers from any tracker"
  | noSession _ => "No peer reached the unchoked state"
  | noSize index => s!"Piece {index} has no size"
  | noHash index => s!"Piece {index} has no hash"
  | download index peer _ => s!"Failed to download piece {index} from {peer.text}"
  | corrupt index _ _ => s!"Piece {index} is corrupt"

/-- The causes of a failure, the outermost one first. -/
def causes : Failure → List String
  | configuration p => [p.message]
  | unreadable path f => [s!"Failed to read torrent file '{path}'", f.message]
  | torrent e => [e.message]
  | noPeers none => ["Trackers returned no peers"]
  | noPeers (some e) => trackerCauses e
  | noSession tried => [s!"Tried {tried} peers without success"]
  | download _ peer e | corrupt _ peer e => downloadCauses peer e
  | outOfRange .. | noSize _ | noHash _ => []

/-- A text whose further lines are set in as far as its first one. -/
def indented (lead further text : String) : String :=
  lead ++ String.ofList (text.toList.flatMap fun c =>
    if c = '\n' then c :: further.toList else [c])

/-- The lines of causes: a single one is set in, and several are numbered. -/
def causeLines : List String → List String
  | [only] => [indented "    " "    " only]
  | several => several.zipIdx.map fun (cause, i) =>
    let number := toString i
    let lead := String.ofList (List.replicate (5 - number.length) ' ') ++ number ++ ": "
    indented lead "       " cause

/-- The report of a failure. -/
def report (f : Failure) : String :=
  let below := match f.causes with
    | [] => ""
    | causes => "\n\nCaused by:" ++ String.join ((causeLines causes).map ("\n" ++ ·))
  s!"Error: {f.headline}{below}\n"

end Failure

end Swarm.Client
