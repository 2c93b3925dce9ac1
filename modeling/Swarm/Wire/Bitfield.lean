import Swarm.Wire.Message

/-!
# Bitfields

The set of pieces that a peer has, as bits packed into bytes: piece 0 is the high bit of the first
byte. A field has a limit, and pieces at or past it are never added.
-/

namespace Swarm.Wire

/-- Most pieces that are kept for a peer that has not sent a bitfield: as many bits as the largest
block has. -/
def maxPieces : Nat := maxBlock * 8

/-- The set of pieces that a peer has. -/
structure Bitfield where
  /-- The packed bits. -/
  bits : Bytes
  /-- Pieces at or past this index are never added. -/
  limit : Nat
deriving DecidableEq

namespace Bitfield

/-- The set of a peer that has not told which pieces it has. -/
def unknown : Bitfield := ⟨[], maxPieces⟩

/-- The empty set of pieces below a limit. -/
def ofCount (n : Nat) : Bitfield :=
  ⟨List.replicate ((n + 7) / 8) 0, n⟩

/-- The set that a bitfield message tells; its length is the limit. -/
def ofBytes (b : Bytes) : Bitfield := ⟨b, b.length * 8⟩

/-- The bit of a byte that stands for a piece. -/
def mask (index : Nat) : UInt8 :=
  UInt8.ofNat (128 >>> (index % 8))

/-- Whether a piece is in the set. -/
def has (f : Bitfield) (index : Nat) : Bool :=
  match f.bits[index / 8]? with
  | some b => b &&& mask index != 0
  | none => false

/-- The bytes of a field up to a certain one, with zeros where there are none yet. -/
def grown (bits : Bytes) (byte : Nat) : Bytes :=
  bits ++ List.replicate (byte + 1 - bits.length) 0

/-- Adds a piece, if it is below the limit. -/
def add? (f : Bitfield) (index : Nat) : Option Bitfield :=
  if index < f.limit then
    some { f with bits := (grown f.bits (index / 8)).modify (index / 8) (· ||| mask index) }
  else none

/-- Adds a piece; one at or past the limit changes nothing. -/
def add (f : Bitfield) (index : Nat) : Bitfield :=
  (f.add? index).getD f

/-- The number of one bits in a byte. -/
def ones (b : UInt8) : Nat :=
  (List.range 8).countP fun i => b &&& mask i != 0

/-- The number of pieces in the set. -/
def count (f : Bitfield) : Nat :=
  f.bits.foldl (fun n b => n + ones b) 0

end Bitfield

end Swarm.Wire
