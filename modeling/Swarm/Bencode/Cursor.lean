import Swarm.Bencode.Error

/-!
# Cursors

A source is read at a cursor, which tells what is not read yet and the offset of the next byte.
-/

namespace Swarm.Bencode

/-- A place in the source: what is not read yet, and how many bytes are. -/
structure Cursor where
  rest : Bytes
  pos : Nat

namespace Cursor

/-- The cursor before the first byte of a source. -/
def start (source : Bytes) : Cursor := ⟨source, 0⟩

/-- The cursor some bytes further on. -/
def advance (c : Cursor) (count : Nat) : Cursor :=
  ⟨c.rest.drop count, c.pos + count⟩

/-- Whether everything is read. -/
def atEnd (c : Cursor) : Bool := c.rest.isEmpty

/-- Whether a byte is a decimal digit. -/
def isDigit (b : UInt8) : Bool := 0x30 ≤ b && b ≤ 0x39

/-- The number that digits spell. -/
def digitsValue (ds : Bytes) : Nat :=
  ds.foldl (fun n d => n * 10 + (d.toNat - 48)) 0

end Cursor

end Swarm.Bencode
