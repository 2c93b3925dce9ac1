import Swarm.Bytes

/-!
# Identifiers

Info-hashes, peer ids and piece hashes are all strings of exactly twenty bytes.
-/

namespace Swarm

/-- A string of exactly twenty bytes. -/
structure Ident where
  /-- The twenty bytes. -/
  bytes : Bytes
  /-- There are twenty of them. -/
  length_bytes : bytes.length = 20
deriving DecidableEq

namespace Ident

/-- An identifier takes twenty bytes. -/
@[simp] theorem length_eq (id : Ident) : id.bytes.length = 20 := id.length_bytes

/-- The identifier of twenty zero bytes. -/
def zero : Ident := ⟨List.replicate 20 0, by simp⟩

instance : Inhabited Ident := ⟨zero⟩

/-- Reads an identifier from a byte string of the right length. -/
def ofBytes? (b : Bytes) : Option Ident :=
  if h : b.length = 20 then some ⟨b, h⟩ else none

/-- The identifier as forty hexadecimal digits. -/
def hex (id : Ident) : String := id.bytes.hex

/-- The identifiers that a byte string holds one after another, as far as whole ones go. -/
def split (b : Bytes) : List Ident :=
  (b.chunks 20).filterMap ofBytes?

end Ident

end Swarm
