import Swarm.Bytes
import Swarm.Net.Fault

/-!
# Connections

What the other side of a connection sends is a byte string and what comes after it: that side closes,
the connection breaks, or nothing more arrives. A link adds what this side has sent.
-/

namespace Swarm.Net

/-- What happens after the last byte of a stream. -/
inductive Ending where
  /-- The other side has closed. -/
  | closed
  /-- Nothing more arrives. -/
  | silent
  /-- The connection breaks. -/
  | broken (fault : Fault)
deriving DecidableEq

/-- What the other side sends. -/
structure Stream where
  /-- The bytes that are not read yet. -/
  unread : Bytes
  /-- What comes after them. -/
  ending : Ending
deriving DecidableEq

/-- The stream after all its bytes. -/
def Stream.drained (s : Stream) : Stream := ⟨[], s.ending⟩

/-- An open connection. -/
structure Link where
  /-- What the other side sends. -/
  incoming : Stream
  /-- What this side has sent. -/
  sent : Bytes
  /-- How many more writes succeed; without a number, all do. -/
  writes : Option Nat
deriving DecidableEq

namespace Link

/-- A connection on which nothing was exchanged yet and all writes succeed. -/
def fresh (incoming : Stream) : Link := ⟨incoming, [], none⟩

/-- Sends bytes, all or none of them. -/
def send (l : Link) (b : Bytes) : Except Fault Link :=
  match l.writes with
  | none => .ok { l with sent := l.sent ++ b }
  | some 0 => .error .brokenPipe
  | some (n + 1) => .ok { l with sent := l.sent ++ b, writes := some n }

/-- Unless no write is left, the bytes are sent. -/
theorem send_of_writes {l : Link} (h : l.writes ≠ some 0) (b : Bytes) :
    l.send b = .ok { l with sent := l.sent ++ b, writes := l.writes.map (· - 1) } := by
  obtain ⟨incoming, sent, writes⟩ := l
  match writes, h with
  | none, _ => rfl
  | some (n + 1), _ => rfl

end Link

/-- How an attempt to connect ends. -/
inductive Dialing where
  | connected (link : Link)
  | failed (fault : Fault)
  | silent
deriving DecidableEq

end Swarm.Net
