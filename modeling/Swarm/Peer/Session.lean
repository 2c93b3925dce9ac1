import Swarm.Net.Address
import Swarm.Time.Duration
import Swarm.Wire.Bitfield
import Swarm.Wire.Frame
import Swarm.Wire.Handshake

/-!
# Peer sessions

A session is one connection to a peer. Both sides send a handshake; this side waits for a first
message, says that it is interested, and waits until the peer stops choking it. Every message that is
read updates what the session knows: whether the peer chokes this side, and which pieces it has.
-/

namespace Swarm.Peer

open Swarm.Net (Endpoint Fault Link Stream)
open Swarm.Time (Duration)
open Swarm.Wire

/-- How far a session has come. A rejected session stays rejected. -/
inductive State where
  | connecting
  | handshakeSent
  | handshakeVerified
  | interestedSent
  | unchoked
  | rejected
deriving DecidableEq

/-- The steps of setting up a session that can fail or take too long. -/
inductive Stage where
  | connecting
  | sendingHandshake
  | readingHandshake
  | sendingInterested
  | awaitingUnchoke
deriving DecidableEq

/-- The words for a step. -/
def Stage.name : Stage → String
  | connecting => "connecting"
  | sendingHandshake => "sending handshake"
  | readingHandshake => "reading handshake"
  | sendingInterested => "sending interested"
  | awaitingUnchoke => "waiting for unchoke"

/-- Why a session cannot be set up. -/
inductive SetupError where
  /-- The peer does not accept the connection. -/
  | connect (fault : Fault)
  /-- A step took too long. -/
  | timeout (stage : Stage) (limit : Duration)
  /-- The connection failed during a step. -/
  | fault (stage : Stage) (fault : Fault)
  /-- The peer closed the connection inside its handshake. -/
  | shortHandshake (received : Nat)
  /-- The handshake names another protocol. -/
  | invalidProtocol
  /-- The handshake names another torrent. -/
  | infoHashMismatch (expected actual : Ident)
  /-- A frame cannot be read, and neither can what follows it. -/
  | protocol (e : FrameError)
deriving DecidableEq

/-- The report of an error; `peer` is the address of the peer. -/
def SetupError.message (peer : String) : SetupError → String
  | connect f => s!"failed to connect to peer {peer}: {f.message}"
  | timeout stage limit => s!"timed out after {limit.text} while {stage.name} with peer {peer}"
  | fault stage f => s!"i/o error while {stage.name} with peer {peer}: {f.message}"
  | shortHandshake received =>
    s!"peer {peer} sent a short handshake: expected {Handshake.size} bytes, received {received}"
  | invalidProtocol => s!"peer {peer} sent an invalid protocol header"
  | infoHashMismatch expected actual =>
    s!"info hash mismatch with peer {peer}: expected {expected.hex}, received {actual.hex}"
  | protocol e => s!"peer {peer} sent a malformed message: {e.message}"

/-- An open connection to a peer. -/
structure Session where
  /-- The peer. -/
  peer : Endpoint
  /-- The connection. -/
  link : Link
  state : State
  /-- The peer id from the peer's handshake. -/
  remoteId : Ident
  /-- Whether the peer chokes this side. -/
  choked : Bool
  /-- The pieces that the peer has told of. -/
  pieces : Bitfield
  /-- What the reads of frames so far resulted in, the last one first. -/
  log : List Reading
deriving DecidableEq

namespace Session

/-- A session on a connection that was just opened. -/
def opened (peer : Endpoint) (link : Link) : Session :=
  ⟨peer, link, .connecting, .zero, true, .unknown, []⟩

/-- Whether blocks may be requested. -/
def isUnchoked (s : Session) : Bool :=
  s.state == .unchoked && !s.choked

/-- Gives the session up. -/
def reject (s : Session) : Session := { s with state := .rejected }

/-- What a session knows after a message. -/
def learn (s : Session) : Message → Session
  | .choke =>
    { s with choked := true, state := if s.state = .unchoked then .interestedSent else s.state }
  | .unchoke =>
    { s with choked := false, state := if s.state = .interestedSent then .unchoked else s.state }
  | .bitfield bits => { s with pieces := .ofBytes bits }
  | .have piece => { s with pieces := s.pieces.add piece.toNat }
  | _ => s

/-- The session behind a frame, with what reading it resulted in. -/
def behind (s : Session) (r : Reading) (rest : Stream) : Session :=
  { s with link := { s.link with incoming := rest }, log := r :: s.log }

/-- Reads the next message and learns from it. -/
def next (s : Session) : Reading × Session :=
  match readFrame s.link.incoming with
  | (.ok m, rest) => (.ok m, (s.behind (.ok m) rest).learn m)
  | (.error e, rest) => (.error e, s.behind (.error e) rest)

/-- Sends a message. -/
def send (s : Session) (m : Message) : Except Fault Session :=
  match s.link.send m.frame with
  | .ok link => .ok { s with link }
  | .error f => .error f

/-- Reads up to the next message that is not a keep-alive; frames with a payload of the wrong size
are skipped. A byte of `fuel` a frame is enough. -/
def awaitMessage (limit : Duration) (fuel : Bytes) (s : Session) :
    Except SetupError Message × Session :=
  match s.next with
  | (.ok .keepAlive, s) | (.error (.malformed _), s) =>
    match fuel with
    | [] => (.error (.timeout .awaitingUnchoke limit), s)
    | _ :: fuel => awaitMessage limit fuel s
  | (.ok m, s) => (.ok m, s)
  | (.error .silent, s) => (.error (.timeout .awaitingUnchoke limit), s)
  | (.error (.fault f), s) => (.error (.fault .awaitingUnchoke f), s)
  | (.error e, s) => (.error (.protocol e), s)

/-- Reads up to the next message that is not a keep-alive. -/
def awaitAny (limit : Duration) (s : Session) : Except SetupError Message × Session :=
  awaitMessage limit s.link.incoming.unread s

/-- Reads messages until the peer stops choking this side. A byte of `fuel` a message is enough. -/
def awaitUnchoke (limit : Duration) (fuel : Bytes) (s : Session) :
    Except SetupError Unit × Session :=
  match s.awaitAny limit with
  | (.error e, s) => (.error e, s)
  | (.ok .unchoke, s) => (.ok (), { s with state := .unchoked })
  | (.ok _, s) =>
    match fuel with
    | [] => (.error (.timeout .awaitingUnchoke limit), s)
    | _ :: fuel => awaitUnchoke limit fuel s

/-- Reads the peer's handshake, which must name the same torrent. -/
def readHandshake (infoHash : Ident) (limit : Duration) (s : Session) :
    Except SetupError Unit × Session :=
  let incoming := s.link.incoming
  let head := incoming.unread.take Handshake.size
  if head.length < Handshake.size then
    let e := match incoming.ending with
      | .closed => SetupError.shortHandshake head.length
      | .silent => .timeout .readingHandshake limit
      | .broken f => .fault .readingHandshake f
    (.error e, { s with link := { s.link with incoming := incoming.drained } })
  else
    let rest := { incoming with unread := incoming.unread.drop Handshake.size }
    let s := { s with link := { s.link with incoming := rest } }
    match Handshake.ofBytes? head with
    | none => (.error .invalidProtocol, s)
    | some theirs =>
      if theirs.infoHash = infoHash then
        (.ok (), { s with remoteId := theirs.peerId, state := .handshakeVerified })
      else (.error (.infoHashMismatch infoHash theirs.infoHash), s)

/-- Says that this side is interested, after a first message from the peer, and waits until the peer
stops choking this side; it may have done so with its first message. -/
def declareInterest (limit : Duration) (s : Session) : Except SetupError Unit × Session :=
  match s.awaitAny limit with
  | (.error e, s) => (.error e, s)
  | (.ok first, s) =>
    match s.send .interested with
    | .error f => (.error (.fault .sendingInterested f), s)
    | .ok s =>
      let s := { s with state := .interestedSent }
      if first = .unchoke then (.ok (), { s with state := .unchoked })
      else s.awaitUnchoke limit s.link.incoming.unread

/-- Sets a session up on a connection that was just opened. -/
def establish (infoHash peerId : Ident) (limit : Duration) (s : Session) :
    Except SetupError Unit × Session :=
  match s.link.send (Handshake.plain infoHash peerId).bytes with
  | .error f => (.error (.fault .sendingHandshake f), s)
  | .ok link =>
    match { s with link, state := .handshakeSent }.readHandshake infoHash limit with
    | (.error e, s) => (.error e, s)
    | (.ok (), s) => s.declareInterest limit

/-- Opens a session with a peer: a session in which blocks may be requested, or the reason why there
is none and the connection as far as it came. -/
def connect (peer : Endpoint) (infoHash peerId : Ident) (limit : Duration) (link : Link) :
    Except (SetupError × Link) Session :=
  match (opened peer link).establish infoHash peerId limit with
  | (.ok (), s) => .ok s
  | (.error e, s) => .error (e, s.link)

end Session

end Swarm.Peer
