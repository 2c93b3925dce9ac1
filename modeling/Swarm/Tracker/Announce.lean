import Swarm.Ident
import Swarm.Text.Utf8

/-!
# Announces

What a client tells a tracker: which torrent it wants, who it is, where it listens, and how much it
has transferred. Over HTTP these are the parameters of a query.
-/

namespace Swarm.Tracker

/-- The content of an announce. -/
structure Announce where
  infoHash : Ident
  peerId : Ident
  /-- The port on which the client claims to listen. -/
  port : UInt16
  uploaded : UInt64
  downloaded : UInt64
  left : UInt64
deriving DecidableEq

namespace Announce

/-- The announce of a client that has transferred nothing yet. -/
def start (infoHash peerId : Ident) (port : UInt16) (left : UInt64) : Announce :=
  ⟨infoHash, peerId, port, 0, 0, left⟩

/-- The bytes that stand for themselves in a query: letters, digits, and four signs. -/
def isPlain (b : UInt8) : Bool :=
  let c := Char.ofNat b.toNat
  b < 0x80 && (c.isAlphanum || c == '-' || c == '_' || c == '.' || c == '~')

/-- An uppercase hexadecimal digit. -/
def upperHex (n : Nat) : Char := (Nat.digitChar n).toUpper

/-- A byte of a query parameter: itself, or two hexadecimal digits after a percent sign. -/
def encodeByte (b : UInt8) : List Char :=
  if isPlain b then [Char.ofNat b.toNat]
  else ['%', upperHex (b.toNat / 16), upperHex (b.toNat % 16)]

/-- A byte string as a query parameter. -/
def encodeBytes (b : Bytes) : String :=
  String.ofList (b.flatMap encodeByte)

/-- The parameters of an announce, in order. -/
def parameters (a : Announce) : List (String × String) :=
  [ ("info_hash", encodeBytes a.infoHash.bytes)
  , ("peer_id", encodeBytes a.peerId.bytes)
  , ("port", toString a.port.toNat)
  , ("uploaded", toString a.uploaded.toNat)
  , ("downloaded", toString a.downloaded.toNat)
  , ("left", toString a.left.toNat)
  , ("compact", "1")
  , ("event", "started") ]

/-- The query of an announce: its parameters with `=` after each name and `&` between them. -/
def query (a : Announce) : String :=
  "&".intercalate (a.parameters.map fun (name, value) => name ++ "=" ++ value)

end Announce

end Swarm.Tracker
