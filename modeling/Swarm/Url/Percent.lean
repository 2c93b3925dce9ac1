import Swarm.Text.Numeral
import Swarm.Text.Utf8

/-!
# Percent-encoding

In a URL a character that may not stand for itself is written as its UTF-8 bytes, each as a percent
sign and two hexadecimal digits. Which characters these are depends on the part of the URL.
-/

namespace Swarm.Url

/-- The parts of a URL that differ in what must be encoded. -/
inductive Component where
  | host
  | path
  | query
deriving DecidableEq

/-- Whether a character must be encoded: control characters and all beyond ASCII always. -/
def Component.encodes (p : Component) (c : Char) : Bool :=
  c.toNat < 0x20 || 0x7F ≤ c.toNat ||
    match p with
    | .host => false
    | .path => c ∈ [' ', '"', '#', '<', '>', '?', '`', '\x7b', '\x7d']
    | .query => c ∈ [' ', '"', '#', '<', '>', '\'']

/-- An encoded byte. -/
def encodedByte (b : UInt8) : List Char :=
  ['%', (Nat.digitChar (b.toNat / 16)).toUpper, (Nat.digitChar (b.toNat % 16)).toUpper]

/-- A character as it stands in a part of a URL. -/
def encodeChar (p : Component) (c : Char) : List Char :=
  if p.encodes c then (String.utf8EncodeChar c).flatMap encodedByte else [c]

/-- A text as it stands in a part of a URL. -/
def percentEncode (p : Component) (cs : List Char) : List Char :=
  cs.flatMap (encodeChar p)

/-- The byte that three bytes encode: a percent sign and two hexadecimal digits. -/
def encoded? (sign x y : UInt8) : Option UInt8 := do
  let high ← Text.Numeral.digit? 16 (Char.ofNat x.toNat)
  let low ← Text.Numeral.digit? 16 (Char.ofNat y.toNat)
  if sign = '%'.toUInt8 then some (UInt8.ofNat (high * 16 + low)) else none

/-- Resolves percent signs; one that is not followed by two hexadecimal digits stands for itself. The
bytes so far are kept in reverse. -/
def percentDecodeFrom (done : Bytes) : Bytes → Bytes
  | b :: x :: y :: rest =>
    match encoded? b x y with
    | some v => percentDecodeFrom (v :: done) rest
    | none => percentDecodeFrom (b :: done) (x :: y :: rest)
  | rest => done.reverse ++ rest

/-- The bytes of a text with its percent signs resolved. -/
def percentDecode (cs : List Char) : Bytes :=
  percentDecodeFrom [] (cs.flatMap String.utf8EncodeChar)

end Swarm.Url
