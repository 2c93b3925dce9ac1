import Swarm.Bytes

/-!
# Peer messages

Messages between peers, and the frames that carry them: four bytes of length, then an id and a
payload of that length together. A length of zero is a keep-alive.
-/

namespace Swarm.Wire

/-- The largest block that a peer may send. -/
def maxBlock : Nat := 1024 * 1024

/-- The largest frame: an id, an index, an offset and the largest block. -/
def maxFrame : Nat := maxBlock + 9

/-- The messages with an id of their own. -/
inductive MessageId where
  | choke
  | unchoke
  | interested
  | notInterested
  | have
  | bitfield
  | request
  | piece
  | cancel
deriving DecidableEq

namespace MessageId

/-- The byte that stands for a message. -/
def byte : MessageId → UInt8
  | choke => 0
  | unchoke => 1
  | interested => 2
  | notInterested => 3
  | .have => 4
  | bitfield => 5
  | request => 6
  | piece => 7
  | cancel => 8

/-- All messages with an id of their own. -/
def all : List MessageId :=
  [choke, unchoke, interested, notInterested, .have, bitfield, request, piece, cancel]

/-- The message that a byte stands for. -/
def ofByte? (b : UInt8) : Option MessageId :=
  all.find? fun id => id.byte == b

/-- A kind is read back from its byte. -/
theorem ofByte?_byte (id : MessageId) : ofByte? id.byte = some id := by
  cases id <;> rfl

end MessageId

/-- A message between peers. -/
inductive Message where
  | keepAlive
  | choke
  | unchoke
  | interested
  | notInterested
  | have (piece : UInt32)
  | bitfield (bits : Bytes)
  | request (index start length : UInt32)
  | piece (index start : UInt32) (block : Bytes)
  | cancel (index start length : UInt32)
  /-- A message that has no meaning here. -/
  | other (id : UInt8) (payload : Bytes)
deriving DecidableEq

/-- The messages whose payload must have a certain size. -/
inductive Sized where
  | have
  | request
  | piece
deriving DecidableEq

/-- The name of such a message; a cancellation has the form of a request and is named as one. -/
def Sized.name : Sized → String
  | .have => "have"
  | request => "request"
  | piece => "piece"

/-- A payload of the wrong size. -/
structure Malformed where
  /-- The message that it belongs to. -/
  kind : Sized
  /-- Its size. -/
  length : Nat
deriving DecidableEq

/-- What is wrong with the payload. -/
def Malformed.reason (m : Malformed) : String :=
  match m.kind with
  | .have => s!"payload is {m.length} bytes, expected 4"
  | .request => s!"payload is {m.length} bytes, expected 12"
  | .piece => s!"payload is {m.length} bytes, need at least 8"

namespace Message

/-- The id of a message; a keep-alive has none. -/
def id? : Message → Option UInt8
  | keepAlive => none
  | choke => some MessageId.choke.byte
  | unchoke => some MessageId.unchoke.byte
  | interested => some MessageId.interested.byte
  | notInterested => some MessageId.notInterested.byte
  | .have _ => some MessageId.have.byte
  | bitfield _ => some MessageId.bitfield.byte
  | request .. => some MessageId.request.byte
  | piece .. => some MessageId.piece.byte
  | cancel .. => some MessageId.cancel.byte
  | other id _ => some id

/-- Three words in a row. -/
def triple (index start length : UInt32) : Bytes :=
  Bytes.word 4 index.toNat ++ Bytes.word 4 start.toNat ++ Bytes.word 4 length.toNat

/-- What follows the id. -/
def payload : Message → Bytes
  | .have p => Bytes.word 4 p.toNat
  | bitfield bits => bits
  | request i s l | cancel i s l => triple i s l
  | piece i s block => Bytes.word 4 i.toNat ++ Bytes.word 4 s.toNat ++ block
  | other _ p => p
  | keepAlive | choke | unchoke | interested | notInterested => []

/-- The declared length: the id and the payload, in 32 bits. -/
def length : Message → UInt32
  | keepAlive => 0
  | choke | unchoke | interested | notInterested => 1
  | .have _ => 5
  | bitfield bits => 1 + UInt32.ofNat bits.length
  | request .. | cancel .. => 13
  | piece _ _ block => 9 + UInt32.ofNat block.length
  | other _ p => 1 + UInt32.ofNat p.length

/-- The frame of a message. -/
def frame (m : Message) : Bytes :=
  Bytes.word 4 m.length.toNat ++ m.id?.toList ++ m.payload

/-- The block that a message brings for a place in a piece. -/
def blockAt? (index start : UInt32) : Message → Option Bytes
  | piece i s block => if i = index ∧ s = start then some block else none
  | _ => none

/-- Reads three words in a row. -/
def ofTriple? (make : UInt32 → UInt32 → UInt32 → Message) (p : Bytes) :
    Except Malformed Message :=
  if p.length = 12 then
    .ok (make (Bytes.word32 (p.take 4)) (Bytes.word32 ((p.drop 4).take 4))
      (Bytes.word32 (p.drop 8)))
  else .error ⟨.request, p.length⟩

/-- Reads a message from its id and payload. -/
def ofPayload (id : UInt8) (p : Bytes) : Except Malformed Message :=
  match MessageId.ofByte? id with
  | none => .ok (other id p)
  | some .choke => .ok choke
  | some .unchoke => .ok unchoke
  | some .interested => .ok interested
  | some .notInterested => .ok notInterested
  | some .have =>
    if p.length = 4 then .ok (.have (Bytes.word32 p)) else .error ⟨.have, p.length⟩
  | some .bitfield => .ok (bitfield p)
  | some .request => ofTriple? request p
  | some .cancel => ofTriple? cancel p
  | some .piece =>
    if p.length < 8 then .error ⟨.piece, p.length⟩
    else .ok (piece (Bytes.word32 (p.take 4)) (Bytes.word32 ((p.drop 4).take 4)) (p.drop 8))

end Message

end Swarm.Wire
