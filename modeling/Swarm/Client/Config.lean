import Swarm.Client.Options
import Swarm.Peer.Download
import Swarm.Tracker.Fetch

/-!
# Configuration

The settings of a run, as the command line gives them, and the conditions that they must meet.
-/

namespace Swarm.Client

open Swarm.Peer (DownloadConfig)
open Swarm.Time (Duration)

/-- The largest block that may be asked for in one request. -/
def maxBlockSize : Nat := 128 * 1024

/-- How long to wait for a peer, unless the command line says otherwise. -/
def standardPeerTimeout : Duration := .ofSecs 3

/-- The pieces to fetch. -/
inductive Selection where
  | one (index : Nat)
  | all
deriving DecidableEq

/-- The settings of a run. -/
structure Config where
  torrentFile : String
  /-- The port that trackers are told. -/
  port : UInt16
  pieces : Selection
  /-- How many peers to try. -/
  maxPeers : Nat
  tracker : Tracker.Config
  /-- How long to wait for a peer. -/
  peerTimeout : Duration
  download : DownloadConfig
  verbose : Bool
  quiet : Bool
deriving DecidableEq

/-- A condition that a configuration does not meet. -/
inductive Problem where
  | port
  | maxPeers
  | blockSize
  | timeout (name : String)
  | maxResponse
  | verboseAndQuiet
deriving DecidableEq

/-- The words for a problem. -/
def Problem.message : Problem → String
  | port => "Port cannot be 0"
  | maxPeers => "max_peers must be at least 1"
  | blockSize => s!"block_size must be between 1 and {maxBlockSize}"
  | timeout name => s!"{name} must be positive"
  | maxResponse => "max_response_bytes must be positive"
  | verboseAndQuiet => "--verbose and --quiet are mutually exclusive"

namespace Config

/-- The settings that a command line gives. -/
def ofOptions (o : Options) : Config :=
  let trackerTimeout := Duration.ofSecs (o.get .trackerTimeout)
  { torrentFile := o.file
    port := UInt16.ofNat (o.get .port)
    pieces := if o.has .allPieces then .all else .one (o.get .piece)
    maxPeers := o.get .maxPeers
    tracker := {
      udp := ⟨trackerTimeout, o.get .udpRetries, !o.has .lenientPeerCount⟩
      http := ⟨trackerTimeout, o.get .maxResponse⟩ }
    peerTimeout := .ofSecs (o.get .peerTimeout)
    download := ⟨o.get .blockSize, .ofSecs (o.get .blockTimeout)⟩
    verbose := o.has .verbose
    quiet := o.has .quiet }

/-- The first condition that the settings do not meet. -/
def problem? (c : Config) : Option Problem :=
  if c.port = 0 then some .port
  else if c.maxPeers = 0 then some .maxPeers
  else if c.download.blockSize = 0 ∨ maxBlockSize < c.download.blockSize then some .blockSize
  else if c.tracker.udp.timeout.nanos = 0 then some (.timeout "tracker timeout")
  else if c.peerTimeout.nanos = 0 then some (.timeout "peer timeout")
  else if c.download.blockTimeout.nanos = 0 then some (.timeout "block timeout")
  else if c.tracker.http.maxResponse = 0 then some .maxResponse
  else if c.verbose && c.quiet then some .verboseAndQuiet
  else none

end Config

end Swarm.Client
