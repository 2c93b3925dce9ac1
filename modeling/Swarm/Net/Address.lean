import Swarm.Bytes
import Swarm.Text.Numeral

/-!
# Addresses

IPv4 and IPv6 addresses and their texts, and endpoints: an IPv4 address with a port, which trackers
hand out in six bytes.
-/

namespace Swarm.Net

/-- An IPv4 address. -/
structure Ipv4 where
  a : UInt8
  b : UInt8
  c : UInt8
  d : UInt8
deriving DecidableEq

namespace Ipv4

/-- The address with a number for its 32 bits. -/
def ofNumber (n : Nat) : Ipv4 :=
  ⟨UInt8.ofNat (n >>> 24), UInt8.ofNat (n >>> 16), UInt8.ofNat (n >>> 8), UInt8.ofNat n⟩

/-- Four decimal numbers with points between them. -/
def text (ip : Ipv4) : String :=
  s!"{ip.a.toNat}.{ip.b.toNat}.{ip.c.toNat}.{ip.d.toNat}"

end Ipv4

/-- An IPv4 address and a port. -/
structure Endpoint where
  ip : Ipv4
  port : UInt16
deriving DecidableEq

namespace Endpoint

/-- The six bytes of an endpoint: the address, then the port, the most significant byte first. -/
def compact (e : Endpoint) : Bytes :=
  [e.ip.a, e.ip.b, e.ip.c, e.ip.d] ++ Bytes.word 2 e.port.toNat

/-- Reads an endpoint from its six bytes. -/
def ofCompact? : Bytes → Option Endpoint
  | [a, b, c, d, p, q] => some ⟨⟨a, b, c, d⟩, Bytes.word16 [p, q]⟩
  | _ => none

/-- The endpoints of a list of six-byte records, in order; nothing where a part of a record is left
over. -/
def list? (b : Bytes) : Option (List Endpoint) :=
  if b.length % 6 = 0 then some ((b.chunks 6).filterMap ofCompact?) else none

/-- The address and the port with a colon between them. -/
def text (e : Endpoint) : String :=
  s!"{e.ip.text}:{e.port.toNat}"

end Endpoint

end Swarm.Net
