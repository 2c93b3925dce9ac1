import Swarm.Net.Address
import Swarm.Tracker.Announce
import Swarm.Tracker.Error

/-!
# UDP packets

The two requests that a UDP tracker understands and its replies. All words are big-endian. A request
to connect yields a connection id, which announces then carry; a reply repeats the transaction id of
its request.
-/

namespace Swarm.Tracker.Udp

open Swarm.Net (Endpoint)

/-- The word that opens a request to connect. -/
def protocolId : Nat := 0x41727101980

/-- The kinds of request and reply. -/
inductive Action where
  | connect
  | announce
  | failure
deriving DecidableEq

/-- The word for a kind. -/
def Action.word : Action → UInt32
  | connect => 0
  | announce => 1
  | failure => 3

/-- A request to connect: 16 bytes. -/
def connectRequest (transaction : UInt32) : Bytes :=
  Bytes.word 8 protocolId ++ Bytes.word 4 Action.connect.word.toNat ++
    Bytes.word 4 transaction.toNat

/-- An announce: 98 bytes. After the counters come the event (none), the address (that of the
sender), the key, the number of peers wanted (as many as the tracker likes) and the port. -/
def announceRequest (connection : UInt64) (transaction key : UInt32) (a : Announce) : Bytes :=
  Bytes.word 8 connection.toNat ++ Bytes.word 4 Action.announce.word.toNat ++
    Bytes.word 4 transaction.toNat ++ a.infoHash.bytes ++ a.peerId.bytes ++
    Bytes.word 8 a.downloaded.toNat ++ Bytes.word 8 a.left.toNat ++
    Bytes.word 8 a.uploaded.toNat ++ Bytes.word 4 0 ++ Bytes.word 4 0 ++
    Bytes.word 4 key.toNat ++ Bytes.word 4 (UInt32.size - 1) ++ Bytes.word 2 a.port.toNat

/-- What an announce yields. -/
structure Reply where
  /-- The seconds to wait before the next announce. -/
  interval : UInt32
  leechers : UInt32
  seeders : UInt32
  peers : List Endpoint
deriving DecidableEq

/-- Checks the transaction id of a reply, then its kind, then its size. The answer is what follows
these two words. -/
def checkHeader (d : Bytes) (transaction : UInt32) (wanted : Action) (least : Nat) :
    Except Error Bytes :=
  if d.length < 8 then .error (.shortResponse least d.length)
  else
    let action := Bytes.word32 (d.take 4)
    let received := Bytes.word32 ((d.drop 4).take 4)
    let rest := d.drop 8
    if received ≠ transaction then .error (.transactionMismatch transaction received)
    else if action = Action.failure.word then .error (.refused (Text.Utf8.lossy rest))
    else if action ≠ wanted.word then .error (.actionMismatch wanted.word action)
    else if d.length < least then .error (.shortResponse least d.length)
    else .ok rest

/-- The connection id in a reply. -/
def connectionOf (d : Bytes) (transaction : UInt32) : Except Error UInt64 :=
  match checkHeader d transaction .connect 16 with
  | .error e => .error e
  | .ok rest => .ok (Bytes.word64 (rest.take 8))

/-- The bytes that the declared peers take, six each. The counts are added as 64-bit words, and the
product stops at the largest one. -/
def declaredLength (leechers seeders : UInt32) : Nat :=
  min ((leechers.toUInt64 + seeders.toUInt64).toNat * 6) (UInt64.size - 1)

/-- The reply to an announce. It declares how many peers it holds; if the count is strict there must
be exactly so many, and otherwise not more. -/
def replyOf (d : Bytes) (transaction : UInt32) (strict : Bool) : Except Error Reply :=
  match checkHeader d transaction .announce 20 with
  | .error e => .error e
  | .ok rest =>
    let interval := Bytes.word32 (rest.take 4)
    let leechers := Bytes.word32 ((rest.drop 4).take 4)
    let seeders := Bytes.word32 ((rest.drop 8).take 4)
    let data := rest.drop 12
    let declared := declaredLength leechers seeders
    if (if strict then data.length = declared else data.length ≤ declared) then
      match Endpoint.list? data with
      | none => .error (.invalidPeers data.length)
      | some peers => .ok ⟨interval, leechers, seeders, peers⟩
    else .error (.peerCountMismatch declared data.length)

end Swarm.Tracker.Udp
