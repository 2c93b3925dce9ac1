import Swarm.Text.Blank
import Swarm.Text.Numeral
import Swarm.Tracker.Error

/-!
# HTTP replies

A reply is a head, an empty line and a body. The head ends at the first empty line between carriage
returns and line feeds, or, where there is none, at the first between bare line feeds. A body in
chunks is put together.
-/

namespace Swarm.Tracker.Http

open Swarm.Text

/-- A reply taken apart. -/
structure Response where
  /-- The status code. -/
  status : Nat
  /-- The head as text. -/
  head : String
  /-- The body, put together if it came in chunks. -/
  body : Bytes
deriving DecidableEq

/-- A line end of two bytes. -/
def crlf : Bytes := ['\r'.toUInt8, '\n'.toUInt8]

/-- The text of the size of a chunk: what stands before an extension. -/
def sizeText (line : Bytes) : List Char :=
  trim ((Utf8.repaired line).takeWhile (· != ';'))

/-- Puts a body together that comes in chunks, each after its size in hexadecimal; the chunks so far
are kept in reverse. A size of zero ends the body, and what follows it does not matter. A byte of
`fuel` a chunk is enough, since its size line takes at least one. -/
def joinFrom (done : List Bytes) (fuel : Bytes) (b : Bytes) : Except HttpFault Bytes :=
  match Bytes.cut? crlf b with
  | none => .error .unterminatedSize
  | some (line, rest) =>
    match Numeral.natural? 16 UInt64.size (sizeText line) with
    | none => .error (.chunkSize (String.ofList (sizeText line)))
    | some 0 => .ok done.reverse.flatten
    | some size =>
      let chunk := rest.take size
      if chunk.length < size then .error (.shortChunk size chunk.length)
      else
        match fuel with
        | [] => .error .unterminatedSize
        | _ :: fuel =>
          let after := rest.drop size
          let after := if crlf.isPrefixOf after then after.drop 2 else after
          joinFrom (chunk :: done) fuel after

/-- The body that comes in chunks. -/
def joinChunks (b : Bytes) : Except HttpFault Bytes :=
  joinFrom [] b b

/-- The head and the body of a reply. -/
def splitHead? (raw : Bytes) : Option (Bytes × Bytes) :=
  match Bytes.cut? (crlf ++ crlf) raw with
  | some parts => some parts
  | none => Bytes.cut? ['\n'.toUInt8, '\n'.toUInt8] raw

/-- The status code in the first line of a head. -/
def statusOf (line : List Char) : Except HttpFault Nat :=
  match words line with
  | version :: code :: _ =>
    if "HTTP/".toList.isPrefixOf version then
      match Numeral.natural? 10 UInt16.size code with
      | some status => .ok status
      | none => .error (.statusLine (String.ofList line))
    else .error (.statusLine (String.ofList line))
  | _ => .error (.statusLine (String.ofList line))

/-- Whether a header line announces a body in chunks. -/
def announcesChunks (line : List Char) : Bool :=
  match cut? ':' line with
  | none => false
  | some (name, value) =>
    lower (trim name) == "transfer-encoding".toList && contains "chunked".toList (lower value)

/-- Takes a reply apart. -/
def Response.ofBytes (raw : Bytes) : Except HttpFault Response :=
  match splitHead? raw with
  | none => .error .noSeparator
  | some (headBytes, rest) =>
    let head := Utf8.repaired headBytes
    let all := lines head
    match statusOf (all.headD []) with
    | .error e => .error e
    | .ok status =>
      if all.tail.any announcesChunks then
        match joinChunks rest with
        | .error e => .error e
        | .ok body => .ok ⟨status, String.ofList head, body⟩
      else .ok ⟨status, String.ofList head, rest⟩

/-- Refuses a status that does not report success. -/
def checkStatus (status : Nat) : Except HttpFault Unit :=
  if 200 ≤ status ∧ status < 300 then .ok () else .error (.status status)

end Swarm.Tracker.Http
