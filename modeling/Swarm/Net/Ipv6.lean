import Swarm.Net.Address
import Swarm.Text.Blank

/-!
# IPv6 addresses

An IPv6 address is eight 16-bit pieces in hexadecimal with colons between them. A double colon, once
at most, stands for one or more zero pieces, and the last two pieces may be written as an IPv4
address.
-/

namespace Swarm.Net

/-- An IPv6 address: its pieces, of which there are eight. -/
structure Ipv6 where
  pieces : List UInt16
  length_pieces : pieces.length = 8
deriving DecidableEq

namespace Ipv6

open Swarm.Text

/-- A piece: one to four hexadecimal digits. -/
def piece? (cs : List Char) : Option UInt16 :=
  if cs.length ≤ 4 then (Numeral.digits? 16 cs).map UInt16.ofNat else none

/-- A number of an embedded IPv4 address: up to 255, without leading zeros. -/
def octet? : List Char → Option Nat
  | ['0'] => some 0
  | '0' :: _ => none
  | cs => (Numeral.digits? 10 cs).filter (· < 256)

/-- An embedded IPv4 address, as two pieces. -/
def embedded? (cs : List Char) : Option (List UInt16) :=
  match Text.pieces (· == '.') cs with
  | [a, b, c, d] => do
    let a ← octet? a
    let b ← octet? b
    let c ← octet? c
    let d ← octet? d
    some [UInt16.ofNat (a * 256 + b), UInt16.ofNat (c * 256 + d)]
  | _ => none

/-- The pieces of parts that colons divided; the last part may be an IPv4 address if `tail` says
so. -/
def piecesOf? (tail : Bool) : List (List Char) → Option (List UInt16)
  | [] => some []
  | [part] =>
    match piece? part with
    | some p => some [p]
    | none => if tail then embedded? part else none
  | part :: rest => do
    let p ← piece? part
    let ps ← piecesOf? tail rest
    some (p :: ps)

/-- The pieces of one side of an address, which may be empty. -/
def side? (tail : Bool) (cs : List Char) : Option (List UInt16) :=
  if cs.isEmpty then some [] else piecesOf? tail (Text.pieces (· == ':') cs)

/-- What stands before and after the first double colon. -/
def cutDouble? : List Char → Option (List Char × List Char)
  | ':' :: ':' :: rest => some ([], rest)
  | c :: rest => (cutDouble? rest).map fun (l, r) => (c :: l, r)
  | [] => none

/-- Reads an address; a double colon stands for at least one piece. -/
def ofText? (cs : List Char) : Option Ipv6 :=
  match cutDouble? cs with
  | none => do
    let ps ← piecesOf? true (Text.pieces (· == ':') cs)
    if h : ps.length = 8 then some ⟨ps, h⟩ else none
  | some (l, r) => do
    let left ← side? false l
    let right ← side? true r
    let ps := left ++ List.replicate (8 - left.length - right.length) 0 ++ right
    if h : left.length + right.length < 8 then
      some ⟨ps, by simp [ps]; omega⟩
    else none

/-- Where the longest run of zero pieces starts and how long it is, the first such run if several
are longest, given the run found before and the number of the next piece. -/
def longestFrom (best : Nat × Nat) (run i : Nat) : List UInt16 → Nat × Nat
  | [] => best
  | p :: ps =>
    if p = 0 then
      longestFrom (if best.2 < run + 1 then (i - run, run + 1) else best) (run + 1) (i + 1) ps
    else longestFrom best 0 (i + 1) ps

/-- Pieces in hexadecimal with colons between them. -/
def colons (ps : List UInt16) : String :=
  ":".intercalate (ps.map fun p => String.ofList (Nat.toDigits 16 p.toNat))

/-- The shortest text: the first longest run of two or more zero pieces becomes a double colon. -/
def text (ip : Ipv6) : String :=
  let (start, run) := longestFrom (0, 0) 0 0 ip.pieces
  if run < 2 then colons ip.pieces
  else colons (ip.pieces.take start) ++ "::" ++ colons (ip.pieces.drop (start + run))

/-- As `text`, but an address that embeds an IPv4 address shows it in decimal. -/
def mixedText (ip : Ipv6) : String :=
  match ip.pieces with
  | [0, 0, 0, 0, 0, 0xFFFF, p, q] => "::ffff:" ++ (Ipv4.ofNumber (p.toNat * 65536 + q.toNat)).text
  | _ => ip.text

end Ipv6

end Swarm.Net
