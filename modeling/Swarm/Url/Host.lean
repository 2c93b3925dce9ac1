import Swarm.Net.Ipv6
import Swarm.Url.Label
import Swarm.Url.Percent

/-!
# Hosts

The host of a URL with a special scheme is a domain name, an IPv4 address in one of its many
spellings, or an IPv6 address in brackets. Under other schemes it is an IPv6 address in brackets or
any text. How domain names with letters beyond ASCII are converted is given.
-/

namespace Swarm.Url

open Swarm.Net (Ipv4 Ipv6)
open Swarm.Text

/-- Why a text is no URL. -/
inductive Fault where
  | noScheme
  | emptyHost
  | port
  | ipv4
  | ipv6
  | domainName
  | domainCharacter
deriving DecidableEq

/-- The words for a fault. -/
def Fault.message : Fault → String
  | noScheme => "relative URL without a base"
  | emptyHost => "empty host"
  | port => "invalid port number"
  | ipv4 => "invalid IPv4 address"
  | ipv6 => "invalid IPv6 address"
  | domainName => "invalid international domain name"
  | domainCharacter => "invalid domain character"

/-- The host of a URL. -/
inductive Host where
  | domain (name : List Char)
  | ipv4 (ip : Ipv4)
  | ipv6 (ip : Ipv6)
  /-- A host that has no further structure. -/
  | plain (text : List Char)

namespace Host

/-- The text of a host; an IPv6 address stands in brackets. -/
def text : Host → String
  | domain name => String.ofList name
  | ipv4 ip => ip.text
  | ipv6 ip => "[" ++ ip.text ++ "]"
  | plain text => String.ofList text

/-- A number in an IPv4 address: hexadecimal after `0x`, octal after `0`, and otherwise decimal. -/
def ipv4Number? : List Char → Option Nat
  | [] => none
  | ['0', 'x'] => some 0
  | '0' :: 'x' :: cs => Numeral.digits? 16 cs
  | ['0'] => some 0
  | '0' :: cs => Numeral.digits? 8 cs
  | cs => Numeral.digits? 10 cs

/-- The labels of a name without the empty one after a last point. -/
def labels (name : List Char) : List (List Char) :=
  let ls := pieces (· == '.') name
  match ls.getLast? with
  | some [] => if ls.length = 1 then ls else ls.dropLast
  | _ => ls

/-- Whether the last label of a name is a number, so that the name must be an IPv4 address. -/
def endsInNumber (name : List Char) : Bool :=
  match (labels name).getLast? with
  | none => false
  | some last =>
    (!last.isEmpty && last.all Char.isDigit) || (ipv4Number? last).isSome

/-- The value of the numbers of an IPv4 address: each but the last stands for one byte, the last one
for all that are left. -/
def ipv4Value? (numbers : List Nat) : Option Nat :=
  match numbers.reverse with
  | [] => none
  | last :: earlier =>
    let bytes := earlier.reverse
    if last < Nat.pow 256 (4 - bytes.length) ∧ bytes.all (· < 256) then
      some (bytes.foldl (fun n b => n * 256 + b) 0 * Nat.pow 256 (4 - bytes.length) + last)
    else none

/-- An IPv4 address of one to four numbers. -/
def ipv4? (name : List Char) : Option Ipv4 := do
  let ls := labels name
  if 4 < ls.length then none
  else
    let numbers ← ls.mapM ipv4Number?
    let value ← ipv4Value? numbers
    some (.ofNumber value)

/-- The ASCII characters that a domain name may not hold. -/
def barredFromDomain (c : Char) : Bool :=
  c.toNat ≤ 0x20 || 0x7F ≤ c.toNat ||
    c ∈ ['%', '#', '/', ':', '<', '>', '?', '@', '[', '\\', ']', '^', '|']

/-- The characters that a host without further structure may not hold. -/
def barredFromPlain (c : Char) : Bool :=
  c ∈ ['\x00', '\t', '\n', '\r', ' ', '#', '/', ':', '<', '>', '?', '@', '[', '\\', ']', '^', '|']

/-- What turns a domain name with letters beyond ASCII into one without, if the name is proper. -/
abbrev Conversion := String → Option String

/-- A domain name in ASCII and in lowercase. -/
def domainName? (convert : Conversion) (b : Bytes) : Option (List Char) :=
  if b.all (· < 0x80) then
    let cs := lower (b.map fun x => Char.ofNat x.toNat)
    if cs.any barredFromDomain || !Label.areProper (pieces (· == '.') cs) then none else some cs
  else
    match (Utf8.text? b).bind convert with
    | none => none
    | some name => if name.toList.any barredFromDomain then none else some name.toList

/-- An IPv6 address after its first bracket. -/
def bracketed (cs : List Char) : Except Fault Host :=
  match cs.getLast? with
  | some ']' =>
    match Ipv6.ofText? cs.dropLast with
    | some ip => .ok (.ipv6 ip)
    | none => .error .ipv6
  | _ => .error .ipv6

/-- Reads the host under a special scheme. -/
def ofSpecial (convert : Conversion) : List Char → Except Fault Host
  | '[' :: rest => bracketed rest
  | cs =>
    match domainName? convert (percentDecode cs) with
    | none => .error .domainName
    | some [] => .error .emptyHost
    | some name =>
      if endsInNumber name then
        match ipv4? name with
        | some ip => .ok (.ipv4 ip)
        | none => .error .ipv4
      else .ok (.domain name)

/-- Reads the host under any other scheme. -/
def ofOther : List Char → Except Fault Host
  | '[' :: rest => bracketed rest
  | cs =>
    if cs.any barredFromPlain then .error .domainCharacter
    else .ok (.plain (percentEncode .host cs))

end Host

end Swarm.Url
