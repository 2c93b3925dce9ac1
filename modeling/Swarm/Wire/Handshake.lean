import Swarm.Ident

/-!
# Handshakes

The first 68 bytes that either side sends: the name of the protocol after its length, eight reserved
bytes, the info-hash and the peer id.
-/

namespace Swarm.Wire

/-- The name of the protocol after its length. -/
def protocolHeader : Bytes :=
  19 :: Bytes.ofText "BitTorrent protocol"

/-- The beginning of the peer ids of this client. -/
def clientMark : Bytes :=
  Bytes.ofText "-BF0001-"

/-- One side's handshake. -/
structure Handshake where
  /-- Eight bytes for extensions. -/
  reserved : Bytes
  infoHash : Ident
  peerId : Ident
  /-- There are eight reserved bytes. -/
  length_reserved : reserved.length = 8
deriving DecidableEq

namespace Handshake

/-- The size of a handshake. -/
def size : Nat := 68

/-- A handshake without extensions. -/
def plain (infoHash peerId : Ident) : Handshake :=
  ⟨List.replicate 8 0, infoHash, peerId, by simp⟩

/-- The bytes of a handshake. -/
def bytes (h : Handshake) : Bytes :=
  protocolHeader ++ h.reserved ++ h.infoHash.bytes ++ h.peerId.bytes

/-- Reads a handshake from its bytes; nothing where their number or the protocol is another one. -/
def ofBytes? (b : Bytes) : Option Handshake :=
  if h : b.length = size ∧ b.take 20 = protocolHeader then
    some {
      reserved := (b.drop 20).take 8
      infoHash := ⟨(b.drop 28).take 20, by simp [h.1, size]⟩
      peerId := ⟨b.drop 48, by simp [h.1, size]⟩
      length_reserved := by simp [h.1, size] }
  else none

end Handshake

/-- The mark of this client takes eight bytes. -/
theorem length_clientMark : clientMark.length = 8 := by decide

/-- A peer id of this client: its mark and twelve further bytes. -/
def clientId (tail : Vector UInt8 12) : Ident :=
  ⟨clientMark ++ tail.toList, by simp [length_clientMark]⟩

end Swarm.Wire
