import Swarm.Client.Failure
import Swarm.Client.Size

/-!
# Runs

A run loads a torrent file, asks its trackers for peers in order until one hands some out, opens a
session with the first peer that lets it, and fetches and checks the selected pieces one by one over
that session. What a run needs from outside stands in a record of operations, so that the same run
can be looked at in any setting.
-/

namespace Swarm.Client

open Swarm.Net (Endpoint Fault)
open Swarm.Peer (DownloadConfig DownloadError Session SetupError)
open Swarm.Time (Duration)
open Swarm.Torrent (Metainfo)
open Swarm.Tracker (Announce)

/-- What a run needs from outside. -/
structure Operations (m : Type → Type) where
  readFile : (path : String) → m (Except Fault Bytes)
  /-- A peer id for the run. -/
  peerId : m Ident
  /-- One announce to the tracker of a URL. -/
  fetch : Tracker.Config → (url : String) → Announce → m (Except Tracker.Error (List Endpoint))
  /-- One attempt to open a session. -/
  connect : Endpoint → (infoHash peerId : Ident) → Duration → m (Except SetupError Session)
  /-- Fetches a piece over a session. -/
  download : DownloadConfig → (index : UInt32) → (length : Nat) → Session →
    m (Except DownloadError Bytes × Session)
  print : String → m Unit
  /-- The time since some moment, for measuring. -/
  clock : m Duration

/-- What a run has fetched. -/
structure Summary where
  /-- The number of pieces. -/
  pieces : Nat
  /-- The number of bytes. -/
  bytes : Nat
  /-- The peer that they came from. -/
  peer : Endpoint
deriving DecidableEq

/-- The lines about a torrent. -/
def torrentText (m : Metainfo) : String :=
  "Torrent Information:\n" ++
  s!"  Name: {m.name}\n" ++
  s!"  Size: {m.totalSize} ({sizeText m.totalSize})\n" ++
  s!"  Pieces: {m.pieceCount}\n" ++
  s!"  Piece length: {sizeText m.pieceLength}\n" ++
  s!"  Info hash: {m.infoHash.hex}\n" ++
  s!"  Trackers: {m.trackers.length}\n\n"

/-- The lines about what was fetched. -/
def summaryText (s : Summary) (elapsed : Duration) : String :=
  s!"\nFetched {s.pieces} piece(s) from {s.peer.text}\n" ++
  s!"  Bytes: {sizeText s.bytes}\n" ++
  s!"  Time:  {secondsText elapsed}s\n"

/-- The indexes of the selected pieces. All of them are counted with a 32-bit number. -/
def selected (config : Config) (m : Metainfo) : Except Failure (List Nat) :=
  match config.pieces with
  | .one index =>
    if index < m.pieceCount then .ok [index] else .error (.outOfRange index m.pieceCount)
  | .all => .ok (List.range (m.pieceCount % UInt32.size))

variable {m : Type → Type} [Monad m]

/-- Loads the torrent file. -/
def load (ops : Operations m) (path : String) : m (Except Failure Metainfo) := do
  match ← ops.readFile path with
  | .error f => pure (.error (.unreadable path f))
  | .ok data => pure ((Metainfo.ofBytes data).mapError .torrent)

/-- Asks trackers in order until one hands out peers; `last` is the last error so far. -/
def discover (ask : String → m (Except Tracker.Error (List Endpoint)))
    (last : Option Tracker.Error) : List String → m (Except Failure (List Endpoint))
  | [] => pure (.error (.noPeers last))
  | url :: rest => do
    match ← ask url with
    | .ok [] => discover ask last rest
    | .ok peers => pure (.ok peers)
    | .error e => discover ask (some e) rest

/-- Tries peers in order until a session can be opened; `tried` is the number of peers to try. -/
def connectFirst (attempt : Endpoint → m (Except SetupError Session)) (tried : Nat) :
    List Endpoint → m (Except Failure Session)
  | [] => pure (.error (.noSession tried))
  | peer :: rest => do
    match ← attempt peer with
    | .ok session => pure (.ok session)
    | .error _ => connectFirst attempt tried rest

/-- Fetches pieces in order over a session and checks each; `total` is the number of bytes so far. -/
def fetchPieces (ops : Operations m) (config : DownloadConfig) (t : Metainfo) (session : Session)
    (total : Nat) : List Nat → m (Except Failure Nat)
  | [] => pure (.ok total)
  | index :: rest => do
    match t.pieceSize? index, t.pieces[index]? with
    | none, _ => pure (.error (.noSize index))
    | some _, none => pure (.error (.noHash index))
    | some size, some hash =>
      match ← ops.download config (UInt32.ofNat index) size session with
      | (.error e, session) => pure (.error (.download index session.peer e))
      | (.ok data, session) =>
        match Peer.verifyPiece index data hash with
        | .error e => pure (.error (.corrupt index session.peer e))
        | .ok () => fetchPieces ops config t session (total + data.length) rest

/-- Asks the trackers of a torrent for peers and opens a session with one of them. The session comes
with the moment at which the peers were known. -/
def openSession (ops : Operations m) (config : Config) (t : Metainfo) :
    m (Except Failure (Session × Duration)) := do
  let peerId ← ops.peerId
  let announce := Announce.start t.infoHash peerId config.port (UInt64.ofNat t.totalSize)
  match ← discover (fun url => ops.fetch config.tracker url announce) none t.trackers with
  | .error e => pure (.error e)
  | .ok peers =>
    let started ← ops.clock
    let candidates := peers.take config.maxPeers
    let attempt peer := ops.connect peer t.infoHash peerId config.peerTimeout
    match ← connectFirst attempt candidates.length candidates with
    | .error e => pure (.error e)
    | .ok session => pure (.ok (session, started))

/-- Fetches the selected pieces of a torrent. The summary comes with the time that this took. -/
def fetchTorrent (ops : Operations m) (config : Config) (t : Metainfo) (indexes : List Nat) :
    m (Except Failure (Summary × Duration)) := do
  match ← openSession ops config t with
  | .error e => pure (.error e)
  | .ok (session, started) =>
    match ← fetchPieces ops config.download t session 0 indexes with
    | .error e => pure (.error e)
    | .ok bytes =>
      let ended ← ops.clock
      let summary := ⟨indexes.length, bytes, session.peer⟩
      pure (.ok (summary, .ofNanos (ended.nanos - started.nanos)))

/-- A run with some configuration. -/
def run (ops : Operations m) (config : Config) : m (Except Failure Summary) := do
  match config.problem? with
  | some p => pure (.error (.configuration p))
  | none =>
    match ← load ops config.torrentFile with
    | .error e => pure (.error e)
    | .ok t =>
      ops.print (torrentText t)
      match selected config t with
      | .error e => pure (.error e)
      | .ok indexes =>
        match ← fetchTorrent ops config t indexes with
        | .error e => pure (.error e)
        | .ok (summary, elapsed) =>
          ops.print (summaryText summary elapsed)
          pure (.ok summary)

end Swarm.Client
