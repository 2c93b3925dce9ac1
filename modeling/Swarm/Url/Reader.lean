import Swarm.Url.Basic
import Swarm.Url.Host
import Swarm.Url.Path

/-!
# Reading URLs

A parser of URLs for the program. A URL is a scheme and, after slashes, an authority: credentials, a
host and a port. Of what follows, the path and the query of URLs with a special scheme are kept. The
program has no tables of letters, so it converts no names with letters beyond ASCII.
-/

namespace Swarm.Url

open Swarm.Text

/-- The kinds of scheme. -/
inductive SchemeKind where
  /-- A scheme whose URLs always have a host. -/
  | special
  | file
  | other
deriving DecidableEq

/-- The schemes whose URLs always have a host, with their usual ports. -/
def specialPorts : List (String × Nat) :=
  [("http", 80), ("https", 443), ("ws", 80), ("wss", 443), ("ftp", 21)]

/-- The kind of a scheme. -/
def SchemeKind.of (scheme : String) : SchemeKind :=
  if scheme = "file" then .file
  else if (specialPorts.lookup scheme).isSome then .special
  else .other

/-- Whether a character ends the authority. -/
def SchemeKind.endsAuthority (kind : SchemeKind) (c : Char) : Bool :=
  c == '/' || c == '?' || c == '#' || (c == '\\' && kind != .other)

/-- Removes control characters and spaces at both ends, and tabs and line ends everywhere. -/
def clean (cs : List Char) : List Char :=
  let isJunk (c : Char) : Bool := c.toNat ≤ 0x20
  (((cs.dropWhile isJunk).reverse.dropWhile isJunk).reverse).filter
    fun c => c ∉ ['\t', '\n', '\r']

/-- Splits off the scheme, which is put in lowercase. -/
def cutScheme? (cs : List Char) : Option (String × List Char) :=
  let isPart (c : Char) : Bool := c.isAlphanum || c == '+' || c == '-' || c == '.'
  match cs.head?, cut? ':' cs with
  | some first, some (name, rest) =>
    if first.isAlpha && name.all isPart then some (String.ofList (lower name), rest) else none
  | _, _ => none

/-- Splits a list before the last element that satisfies a test, which is dropped. -/
def cutLast? (test : Char → Bool) (cs : List Char) : Option (List Char × List Char) :=
  match cs.reverse.dropWhile (!test ·) with
  | [] => none
  | _ :: before => some (before.reverse, (cs.reverse.takeWhile (!test ·)).reverse)

/-- Whether credentials hold a name or a password. -/
def holdsCredentials (cs : List Char) : Bool :=
  match cut? ':' cs with
  | none => !cs.isEmpty
  | some (name, password) => !name.isEmpty || !password.isEmpty

/-- The host of an authority and what follows it: a colon ends it, unless it stands in brackets. -/
def cutHostFrom (inBrackets : Bool) (host : List Char) : List Char → List Char × List Char
  | [] => (host.reverse, [])
  | c :: rest =>
    if c = ':' && !inBrackets then (host.reverse, c :: rest)
    else
      let inBrackets := if c = '[' then true else if c = ']' then false else inBrackets
      cutHostFrom inBrackets (c :: host) rest

/-- The port after the colon of an authority. -/
def readPort (kind : SchemeKind) (scheme : String) (cs : List Char) : Except Fault (Option Nat) :=
  let digits := if kind = .other then cs.takeWhile (· != '\\') else cs
  if digits.isEmpty then .ok none
  else
    match Numeral.digits? 10 digits with
    | none => .error .port
    | some n =>
      if 65536 ≤ n then .error .port
      else .ok (if specialPorts.lookup scheme = some n then none else some n)

/-- Reads the host of a file URL after its two slashes: none if it is empty, this machine, a drive,
or followed by a path that names a drive. -/
def readFileHost (convert : Host.Conversion) (cs : List Char) : Except Fault (Option Host) :=
  let isEnd (c : Char) : Bool := SchemeKind.file.endsAuthority c
  let name := cs.takeWhile (!isEnd ·)
  let path := (cs.dropWhile (!isEnd ·)).takeWhile fun c => c != '?' && c != '#'
  if name.isEmpty || Path.isDrive name then .ok none
  else
    match Host.ofSpecial convert name with
    | .error e => .error e
    | .ok host =>
      if host.text = "localhost" || Path.startsDrive [] (Path.segments path) then .ok none
      else .ok (some host)

/-- Reads the authority and what follows it. -/
def readAuthority (convert : Host.Conversion) (kind : SchemeKind) (scheme : String)
    (cs : List Char) : Except Fault Url := do
  let authority := cs.takeWhile (!kind.endsAuthority ·)
  let after := cs.dropWhile (!kind.endsAuthority ·)
  let (credentials, place) := match cutLast? (· == '@') authority with
    | some (credentials, place) => (some credentials, place)
    | none => (none, authority)
  if credentials = some [] && place.isEmpty && !after.isEmpty then .error .emptyHost
  else
    let (name, portPart) := cutHostFrom false [] place
    if name.isEmpty && kind = .special then .error .emptyHost
    else
      let host ← if kind = .special then Host.ofSpecial convert name else Host.ofOther name
      if name.isEmpty && !portPart.isEmpty then .error .emptyHost
      else
        let port ← readPort kind scheme (portPart.drop 1)
        if name.isEmpty && (credentials.any holdsCredentials) then .error .emptyHost
        else
          let beforeFragment := after.takeWhile (· != '#')
          let path := Path.resolve (beforeFragment.takeWhile (· != '?'))
          let query := (cut? '?' beforeFragment).map fun (_, q) =>
            String.ofList (percentEncode .query q)
          .ok ⟨scheme, if name.isEmpty then none else some host.text, port.map .ofNat,
            String.ofList path, query⟩

/-- A URL without an authority. -/
def withoutHost (scheme : String) : Url := ⟨scheme, none, none, "", none⟩

/-- Reads a URL that must have a scheme. -/
def read (convert : Host.Conversion) (text : String) : Except Fault Url :=
  match cutScheme? (clean text.toList) with
  | none => .error .noScheme
  | some (scheme, rest) =>
    match SchemeKind.of scheme with
    | .special => readAuthority convert .special scheme (rest.dropWhile Path.isSlash)
    | .file =>
      match rest with
      | a :: b :: rest =>
        if Path.isSlash a && Path.isSlash b then
          match readFileHost convert rest with
          | .error e => .error e
          | .ok host => .ok { withoutHost scheme with host := host.map (·.text) }
        else .ok (withoutHost scheme)
      | _ => .ok (withoutHost scheme)
    | .other =>
      match rest with
      | '/' :: '/' :: rest => readAuthority convert .other scheme rest
      | _ => .ok (withoutHost scheme)

/-- The parser of the program. -/
def parse : Parser := fun text => (read (fun _ => none) text).mapError (·.message)

end Swarm.Url
