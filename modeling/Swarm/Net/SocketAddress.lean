import Swarm.Net.Ipv6

/-!
# Socket addresses

An address of either family with a port, as it stands in messages.
-/

namespace Swarm.Net

open Swarm.Text

/-- An address with a port. -/
inductive SocketAddress where
  | v4 (endpoint : Endpoint)
  /-- A scope of zero is not shown. -/
  | v6 (ip : Ipv6) (scope : Nat) (port : UInt16)

namespace SocketAddress

/-- The text of an address; an IPv6 address stands in brackets. -/
def text : SocketAddress → String
  | v4 e => e.text
  | v6 ip scope port =>
    let zone := if scope = 0 then "" else s!"%{scope}"
    "[" ++ ip.mixedText ++ zone ++ "]:" ++ toString port.toNat

/-- A port: decimal digits below 65536. -/
def port? (cs : List Char) : Option UInt16 :=
  ((Numeral.digits? 10 cs).filter (· < 65536)).map UInt16.ofNat

/-- Four decimal numbers with points between them. -/
def ipv4? (cs : List Char) : Option Ipv4 :=
  match pieces (· == '.') cs with
  | [a, b, c, d] => do
    let a ← Ipv6.octet? a
    let b ← Ipv6.octet? b
    let c ← Ipv6.octet? c
    let d ← Ipv6.octet? d
    some ⟨UInt8.ofNat a, UInt8.ofNat b, UInt8.ofNat c, UInt8.ofNat d⟩
  | _ => none

/-- Reads an address in brackets, after the first one, with its scope and port. -/
def bracketed? (cs : List Char) : Option SocketAddress := do
  let (inner, after) ← cut? ']' cs
  match after with
  | ':' :: port => do
    let port ← port? port
    match cut? '%' inner with
    | none => do
      let ip ← Ipv6.ofText? inner
      some (v6 ip 0 port)
    | some (address, zone) => do
      let ip ← Ipv6.ofText? address
      let scope ← (Numeral.digits? 10 zone).filter (· < UInt32.size)
      some (v6 ip scope port)
  | _ => none

/-- Reads an address with its port. -/
def ofText? (cs : List Char) : Option SocketAddress :=
  match cs with
  | '[' :: rest => bracketed? rest
  | _ => do
    let (address, port) ← cut? ':' cs
    let ip ← ipv4? address
    let port ← port? port
    some (v4 ⟨ip, port⟩)

end SocketAddress

end Swarm.Net
