import Swarm.Hash.Sha1
import Swarm.Peer.Session

/-!
# Downloading

A piece is fetched in blocks, one request at a time. While a request is outstanding, other messages
are passed over; a choke ends the wait, and so does a block of the wrong size. After a failure that
leaves the connection in an unknown state the session is rejected.
-/

namespace Swarm.Peer

open Swarm.Net (Fault)
open Swarm.Time (Duration)
open Swarm.Wire

/-- How pieces are fetched. -/
structure DownloadConfig where
  /-- The bytes asked for in one request. -/
  blockSize : Nat
  /-- How long to wait for each frame. -/
  blockTimeout : Duration
deriving DecidableEq

/-- The conventional settings. -/
def DownloadConfig.standard : DownloadConfig := ⟨16 * 1024, .ofSecs 30⟩

/-- A request that cannot be sent. -/
inductive InvalidRequest where
  | blockLength (length : Nat)
  | blockSize
  | pieceLength (length : Nat)
deriving DecidableEq

/-- What is wrong with such a request. -/
def InvalidRequest.reason : InvalidRequest → String
  | blockLength n => s!"block length {n} outside 1..={maxBlock}"
  | blockSize => "block size must be positive"
  | pieceLength n => s!"piece length {n} does not fit a block offset"

/-- Why a block or a piece cannot be fetched. -/
inductive DownloadError where
  /-- The session does not allow requests. -/
  | notUnchoked
  /-- The request cannot be written. -/
  | send (fault : Fault)
  /-- The connection ended or broke. -/
  | receive (fault : Fault)
  /-- The peer sent less than the block, or more. -/
  | shortBlock (expected received : Nat)
  /-- Nothing arrived in time. -/
  | timeout (limit : Duration)
  /-- The peer choked this side. -/
  | choked
  /-- A frame cannot be read, or has a payload of the wrong size. -/
  | protocol (e : FrameError)
  /-- The request makes no sense. -/
  | invalidRequest (r : InvalidRequest)
  /-- A piece has another hash than the torrent says. -/
  | hashMismatch (index : Nat) (expected actual : Ident)
deriving DecidableEq

/-- The report of an error; `peer` is the address of the peer. -/
def DownloadError.message (peer : String) : DownloadError → String
  | notUnchoked => s!"session with {peer} is not unchoked"
  | send f => s!"failed to send request to {peer}: {f.message}"
  | receive f => s!"failed to read from {peer}: {f.message}"
  | shortBlock expected received =>
    s!"peer {peer} sent a short block: expected {expected} bytes, received {received}"
  | timeout limit => s!"timed out after {limit.text} waiting for block data from {peer}"
  | choked => s!"peer {peer} choked us while a request was outstanding"
  | protocol e => s!"peer {peer} sent a malformed message: {e.message}"
  | invalidRequest r => s!"invalid block request: {r.reason}"
  | hashMismatch index expected actual =>
    s!"piece {index} failed hash verification: expected {expected.hex}, computed {actual.hex}"

/-- The failure of a block request on account of a frame. -/
def frameFailure (length : Nat) (limit : Duration) : FrameError → DownloadError
  | .silent => .timeout limit
  | .fault f => .receive f
  | .truncated _ received => .shortBlock length received
  | e => .protocol e

namespace Session

/-- Reads messages up to the block that was requested. A byte of `fuel` a message is enough. -/
def awaitBlock (index start : UInt32) (length : Nat) (limit : Duration) (fuel : Bytes)
    (s : Session) : Except DownloadError Bytes × Session :=
  match s.next with
  | (.error e, s) => (.error (frameFailure length limit e), s.reject)
  | (.ok m, s) =>
    if m = .choke then (.error .choked, s)
    else
      match m.blockAt? index start with
      | some block =>
        if block.length = length then (.ok block, s)
        else (.error (.shortBlock length block.length), s)
      | none =>
        match fuel with
        | [] => (.error (.timeout limit), s.reject)
        | _ :: fuel => awaitBlock index start length limit fuel s

/-- Requests one block and waits for it. -/
def requestBlock (index start : UInt32) (length : Nat) (limit : Duration) (s : Session) :
    Except DownloadError Bytes × Session :=
  if !s.isUnchoked then (.error .notUnchoked, s)
  else if length = 0 ∨ maxBlock < length then
    (.error (.invalidRequest (.blockLength length)), s)
  else
    match s.send (.request index start (UInt32.ofNat length)) with
    | .error f => (.error (.send f), s.reject)
    | .ok s => s.awaitBlock index start length limit s.link.incoming.unread

/-- Requests the beginning of a piece as one block. -/
def requestPiece (index : UInt32) (blockSize : Nat) (s : Session) :
    Except DownloadError Bytes × Session :=
  s.requestBlock index 0 blockSize DownloadConfig.standard.blockTimeout

/-- Requests the blocks of a piece from a place in it on, up to its end. A block is as long as the
size of blocks, or as what is left of the piece. The blocks so far are kept in reverse. -/
def fetchBlocks (config : DownloadConfig) (positive : config.blockSize ≠ 0) (index : UInt32)
    (pieceLength : Nat) (done : List Bytes) (start : Nat) (s : Session) :
    Except DownloadError (List Bytes) × Session :=
  if start < pieceLength then
    let length := min (pieceLength - start) config.blockSize
    match s.requestBlock index (UInt32.ofNat start) length config.blockTimeout with
    | (.error e, s) => (.error e, s)
    | (.ok block, s) =>
      fetchBlocks config positive index pieceLength (block :: done) (start + length) s
  else (.ok done.reverse, s)
termination_by pieceLength - start

/-- Fetches a piece block by block. -/
def downloadPiece (config : DownloadConfig) (index : UInt32) (pieceLength : Nat) (s : Session) :
    Except DownloadError Bytes × Session :=
  if zero : config.blockSize = 0 then (.error (.invalidRequest .blockSize), s)
  else if UInt32.size ≤ pieceLength then (.error (.invalidRequest (.pieceLength pieceLength)), s)
  else
    match s.fetchBlocks config zero index pieceLength [] 0 with
    | (.error e, s) => (.error e, s)
    | (.ok blocks, s) => (.ok blocks.flatten, s)

end Session

/-- Checks a piece against its hash. -/
def verifyPiece (index : Nat) (data : Bytes) (expected : Ident) : Except DownloadError Unit :=
  let actual := Hash.sha1 data
  if actual = expected then .ok () else .error (.hashMismatch index expected actual)

end Swarm.Peer
