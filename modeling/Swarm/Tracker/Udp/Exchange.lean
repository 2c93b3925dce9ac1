import Swarm.Time.Timeline
import Swarm.Tracker.Udp.Packet

/-!
# UDP exchanges

An exchange sends a packet and waits for a datagram; after a wait in vain it sends the packet again
and waits twice as long, as often as the policy says. Whatever arrives is queued, so an exchange
takes the first datagram that is available, also one that was left over. A socket has a clock, which
only the waits move.
-/

namespace Swarm.Tracker.Udp

open Swarm.Net (Fault)
open Swarm.Time (Duration Timed Timeline)

/-- How long to wait and how often to try. -/
structure Policy where
  /-- The wait after the first packet. -/
  timeout : Duration
  /-- How many more packets may follow. -/
  retries : Nat
  /-- Whether a reply must hold as many peers as it declares. -/
  strictCount : Bool
deriving DecidableEq

namespace Policy

/-- Five seconds, one packet, and a strict count. -/
def standard : Policy := ⟨.ofSecs 5, 0, true⟩

/-- The wait after the packet with a number, counted from zero: it doubles from packet to packet,
eight times at most. -/
def wait (p : Policy) (attempt : Nat) : Duration :=
  p.timeout.times (1 <<< min attempt 8)

end Policy

/-- Something that the network brings. -/
inductive Arrival where
  | datagram (d : Bytes)
  | fault (f : Fault)
deriving DecidableEq

/-- The other side of a socket: why the last packet cannot be sent, or what arrives because of it, each
thing so long after it, given all packets with their moments. -/
abbrev Remote := List (Timed Bytes) → Except Fault (List (Timed Arrival))

/-- This side of a socket. -/
structure Socket where
  /-- The moment that it is, in nanoseconds. -/
  now : Nat
  /-- What has arrived and was not taken yet, and what is still on its way. -/
  queue : Timeline Arrival
  /-- All packets that were sent, the last one last, with their moments, also those that could not
  be. -/
  sent : List (Timed Bytes)
deriving DecidableEq

namespace Socket

/-- A socket on which nothing has happened. -/
def fresh : Socket := ⟨0, .empty, []⟩

/-- Lets time pass. -/
def pass (nanos : Nat) (s : Socket) : Socket := { s with now := s.now + nanos }

/-- While time passes, nothing is sent. -/
@[simp] theorem sent_pass (nanos : Nat) (s : Socket) : (s.pass nanos).sent = s.sent := rfl

/-- While time passes, nothing is taken. -/
@[simp] theorem queue_pass (nanos : Nat) (s : Socket) : (s.pass nanos).queue = s.queue := rfl

/-- Sends a packet, which puts on its way what the other side makes of it, unless there is a reason why
it cannot be sent. -/
def send (remote : Remote) (packet : Bytes) (s : Socket) : Option Fault × Socket :=
  let sent := s.sent ++ [⟨s.now, packet⟩]
  match remote sent with
  | .error f => (some f, { s with sent })
  | .ok arrivals => (none, { s with queue := s.queue.addAll (arrivals.map (·.later s.now)), sent })

/-- Waits for the first arrival, which is taken at once if it is there already, but not beyond the end
of a wait. -/
def receive (wait : Duration) (s : Socket) : Option Arrival × Socket :=
  let limit := s.now + wait.nanos
  match s.queue.first? with
  | some (first, queue) =>
    if first.moment ≤ limit then
      (some first.event, { s with now := max s.now first.moment, queue })
    else (none, { s with now := limit })
  | none => (none, { s with now := limit })

/-- Sends a packet and waits as long as the policy says for the attempt with this number; after a
wait in vain there are `left` more attempts. The outcome is the first arrival, the reason why the
packet cannot be sent, or nothing. -/
def attempts (policy : Policy) (remote : Remote) (packet : Bytes) :
    (attempt left : Nat) → Socket → Option Arrival × Socket
  | attempt, left, s =>
    match s.send remote packet with
    | (some f, s) => (some (.fault f), s)
    | (none, s) =>
      match s.receive (policy.wait attempt) with
      | (some first, s) => (some first, s)
      | (none, s) =>
        match left with
        | 0 => (none, s)
        | left + 1 => attempts policy remote packet (attempt + 1) left s

end Socket

/-- How an exchange with the tracker of some address ends by what arrives. -/
def Arrival.outcome (tracker : String) : Arrival → Except Error Bytes
  | datagram d => .ok d
  | fault f => .error (.fault tracker f)

/-- Exchanges a packet for a datagram with the tracker of some address. -/
def exchange (tracker : String) (policy : Policy) (remote : Remote) (packet : Bytes)
    (s : Socket) : Except Error Bytes × Socket :=
  match s.attempts policy remote packet 0 policy.retries with
  | (some first, s) => (first.outcome tracker, s)
  | (none, s) => (.error (.timeout tracker (policy.wait policy.retries)), s)

/-- The nanoseconds for which a connection id may be used. -/
def connectionLife : Duration := .ofSecs 60

/-- A connection id and the moment at which it was obtained. -/
structure Connection where
  id : UInt64
  /-- In nanoseconds. -/
  issued : Nat
deriving DecidableEq

/-- A client of one tracker. -/
structure Client where
  socket : Socket
  connection : Option Connection
deriving DecidableEq

/-- A client that has not talked to its tracker yet. -/
def Client.fresh : Client := ⟨.fresh, none⟩

/-- The same client so many nanoseconds later. -/
def Client.pass (nanos : Nat) (c : Client) : Client := { c with socket := c.socket.pass nanos }

/-- Time passes for a client on its socket. -/
@[simp] theorem Client.socket_pass (nanos : Nat) (c : Client) :
    (c.pass nanos).socket = c.socket.pass nanos := rfl

/-- While time passes, the connection id stays. -/
@[simp] theorem Client.connection_pass (nanos : Nat) (c : Client) :
    (c.pass nanos).connection = c.connection := rfl

/-- What an announce finds in time and by chance. -/
structure Draw where
  /-- The nanoseconds that pass before it begins. -/
  idle : Nat
  /-- The nanoseconds between the reply to a request to connect and the moment that counts as the one
  at which the connection id was obtained. -/
  lag : Nat
  /-- The transaction id of a request to connect. -/
  connecting : UInt32
  /-- The transaction id of the announce. -/
  announcing : UInt32
  key : UInt32
deriving DecidableEq

namespace Client

/-- The connection id that is still good. -/
def current? (c : Client) : Option UInt64 :=
  match c.connection with
  | some k => if c.socket.now - k.issued < connectionLife.nanos then some k.id else none
  | none => none

/-- A connection id: the one at hand, or a new one. -/
def connect (tracker : String) (policy : Policy) (remote : Remote) (draw : Draw) (c : Client) :
    Except Error UInt64 × Client :=
  match c.current? with
  | some id => (.ok id, c)
  | none =>
    match exchange tracker policy remote (connectRequest draw.connecting) c.socket with
    | (.error e, socket) => (.error e, { c with socket })
    | (.ok d, socket) =>
      match connectionOf d draw.connecting with
      | .error e => (.error e, { c with socket })
      | .ok id =>
        let socket := socket.pass draw.lag
        (.ok id, ⟨socket, some ⟨id, socket.now⟩⟩)

/-- Announces to the tracker, after connecting to it if need be. -/
def announce (tracker : String) (policy : Policy) (remote : Remote) (draw : Draw) (a : Announce)
    (c : Client) : Except Error Reply × Client :=
  match (c.pass draw.idle).connect tracker policy remote draw with
  | (.error e, c) => (.error e, c)
  | (.ok id, c) =>
    let packet := announceRequest id draw.announcing draw.key a
    match exchange tracker policy remote packet c.socket with
    | (.error e, socket) => (.error e, { c with socket })
    | (.ok d, socket) => (replyOf d draw.announcing policy.strictCount, { c with socket })

end Client

end Swarm.Tracker.Udp
