import Mathlib.Data.List.Basic
import Swarm.Proofs.Tracker.Udp.Attempts
import Swarm.Proofs.Tracker.Udp.Reply

/-!
# The exchanges of a client

A client talks to its tracker in exchanges: it sends one packet, perhaps several times, and reads at
most one datagram. This module tells the exchanges of a call and of calls in a row, and says once
what a call can do (`Client.course`). What a client sends is what its exchanges send
(`Client.run_sent`).
-/

namespace Swarm.Tracker.Udp

open Swarm.Time (Timed)

/-- A request of a client: to connect, or an announce under a connection id. -/
inductive Request where
  | connect (transaction : UInt32)
  | announce (connection : UInt64) (transaction key : UInt32) (content : Announce)
deriving DecidableEq

namespace Request

/-- The packet in which a request is sent. -/
def packet : Request → Bytes
  | connect t => connectRequest t
  | announce id t key content => announceRequest id t key content

/-- The transaction id of a request. -/
def transaction : Request → UInt32
  | connect t => t
  | announce _ t _ _ => t

/-- The transaction id of a request stands in the same bytes of its packet, whatever it asks for. -/
lemma packet_transaction (r : Request) :
    (r.packet.drop 12).take 4 = Bytes.word 4 r.transaction.toNat := by
  cases r with
  | connect => exact transaction_connectRequest
  | announce => exact transaction_announceRequest

/-- A datagram with the transaction id of a request repeats four bytes of its packet. -/
lemma repeated {r : Request} {d : Bytes} (same : transactionOf d = r.transaction)
    (long : 8 ≤ d.length) : (d.drop 4).take 4 = (r.packet.drop 12).take 4 := by
  rw [r.packet_transaction, ← same, word_transactionOf long]

end Request

/-- An exchange in which a client makes a request. -/
structure Exchange where
  request : Request
  /-- The packets that the client sends, with their moments. -/
  sent : List (Timed Bytes)
  /-- The datagram that it reads, or why it reads none. -/
  outcome : Except Error Bytes
deriving DecidableEq

namespace Exchange

variable (x : Exchange)

/-- The packets that are sent in an exchange. -/
def packets : List Bytes := x.sent.map (·.event)

/-- The connection id that an exchange yields when its request is one to connect. -/
def connection : Except Error UInt64 :=
  match x.outcome with
  | .error e => .error e
  | .ok d => connectionOf d x.request.transaction

/-- The reply that an exchange yields when its request is an announce. -/
def reply (policy : Policy) : Except Error Reply :=
  match x.outcome with
  | .error e => .error e
  | .ok d => replyOf d x.request.transaction policy.strictCount

/-- A request to connect that is answered with a connection id. -/
def Yields (id : UInt64) : Prop :=
  ∃ t d, x.request = .connect t ∧ x.outcome = .ok d ∧ Grants t d id

/-- The exchange sends the packet of its request, once or more often, and nothing else. -/
def Repeats : Prop := ∃ n, x.packets = List.replicate (n + 1) x.request.packet

/-- The exchange takes a socket from one state to another. -/
structure Takes (s s' : Socket) : Prop where
  repeats : x.Repeats
  sent : s'.sent = s.sent ++ x.sent

end Exchange

/-- A call of a client to announce something. -/
structure Call where
  draw : Draw
  content : Announce

namespace Call

/-- The request to connect that a call makes if it needs one. -/
def connecting (k : Call) : Request := .connect k.draw.connecting

/-- The announce that a call makes under a connection id. -/
def announcing (k : Call) (id : UInt64) : Request :=
  .announce id k.draw.announcing k.draw.key k.content

end Call

section

variable (tracker : String) (policy : Policy) (remote : Remote)

namespace Request

/-- The socket after the exchange in which a request is made. -/
def after (r : Request) (s : Socket) : Socket :=
  (exchange tracker policy remote r.packet s).2

/-- The exchange in which a request is made on a socket. -/
def exchanged (r : Request) (s : Socket) : Exchange :=
  ⟨r, (r.after tracker policy remote s).sent.drop s.sent.length,
    (exchange tracker policy remote r.packet s).1⟩

end Request

namespace Client

/-- What a call answers. -/
def answer (k : Call) (c : Client) : Except Error Reply :=
  (c.announce tracker policy remote k.draw k.content).1

/-- The client after a call. -/
def after (k : Call) (c : Client) : Client :=
  (c.announce tracker policy remote k.draw k.content).2

/-- The exchanges of a call: one to connect unless a connection id is at hand, and one to announce
if there is a connection id then. -/
def exchanges (k : Call) (c : Client) : List Exchange :=
  let c := c.pass k.draw.idle
  let opening :=
    if c.current?.isSome then []
    else [k.connecting.exchanged tracker policy remote c.socket]
  match c.connect tracker policy remote k.draw with
  | (.error _, _) => opening
  | (.ok id, c) => opening ++ [(k.announcing id).exchanged tracker policy remote c.socket]

/-- The client after some calls in a row. -/
def run (calls : List Call) (c : Client) : Client :=
  calls.foldl (fun c k => c.after tracker policy remote k) c

/-- The exchanges of some calls in a row. -/
def history : List Call → Client → List Exchange
  | [], _ => []
  | k :: calls, c =>
    c.exchanges tracker policy remote k ++ history calls (c.after tracker policy remote k)

end Client

end

/-- What a call can do with a client: its exchanges, its answer and the client after it. -/
inductive Course (policy : Policy) (k : Call) (c : Client) :
    List Exchange → Except Error Reply → Client → Prop where
  /-- The connection id at hand serves. -/
  | held {id x s} (current : (c.pass k.draw.idle).current? = some id) (asks : x.request = k.announcing id)
      (takes : x.Takes c.socket s) :
      Course policy k c [x] (x.reply policy) { c with socket := s }
  /-- The request to connect yields nothing. -/
  | refused {x s e} (stale : (c.pass k.draw.idle).current? = none) (opens : x.request = k.connecting)
      (takes : x.Takes c.socket s) (failed : x.connection = .error e) :
      Course policy k c [x] (.error e) { c with socket := s }
  /-- The request to connect yields a connection id. -/
  | granted {id x y s s'} (stale : (c.pass k.draw.idle).current? = none) (opens : x.request = k.connecting)
      (takes : x.Takes c.socket s) (obtained : x.connection = .ok id)
      (asks : y.request = k.announcing id) (takes' : y.Takes s s') :
      Course policy k c [x, y] (y.reply policy) ⟨s', some ⟨id, s.now + k.draw.lag⟩⟩

variable {tracker : String} {policy : Policy} {remote : Remote}

/-! ## Exchanges -/

/-- All copies of a packet are the same. -/
lemma Socket.copies_replicate (policy : Policy) (packet : Bytes) (s : Socket) (n : Nat) :
    (s.copies policy packet n).map (·.event) = List.replicate n packet := by
  simp [copies, Function.comp_def, List.map_const']

/-- An exchange sends its packet at the start of each wait, up to the one in which it ends. -/
lemma exchange_sent (tracker : String) (policy : Policy) (remote : Remote) (packet : Bytes)
    (s : Socket) :
    ∃ n, (exchange tracker policy remote packet s).2.sent =
      s.sent ++ s.copies policy packet (n + 1) := by
  obtain ⟨a, -, _, _, -, ends, outcome⟩ | ⟨-, outcome⟩ :=
    exchange_cases tracker policy remote packet s
  · exact ⟨a, by rw [outcome, ends.sent]⟩
  · exact ⟨policy.retries, by rw [outcome, Socket.waited]⟩

/-- The packets of an exchange are those that are sent beyond what was sent before. -/
lemma Request.sent_exchanged {r : Request} {s : Socket} {sent : List (Timed Bytes)}
    (h : (exchange tracker policy remote r.packet s).2.sent = s.sent ++ sent) :
    (r.exchanged tracker policy remote s).sent = sent := by
  rw [exchanged, after, h, List.drop_left]

/-- What is told of an exchange is so. -/
lemma Request.exchanged_takes (r : Request) (s : Socket) :
    (r.exchanged tracker policy remote s).Takes s (r.after tracker policy remote s) := by
  obtain ⟨n, sent⟩ := exchange_sent tracker policy remote r.packet s
  have news : (r.exchanged tracker policy remote s).sent = s.copies policy r.packet (n + 1) :=
    sent_exchanged sent
  constructor
  · exact ⟨n, by rw [Exchange.packets, news, Socket.copies_replicate]; rfl⟩
  · rw [news, after, sent]

namespace Exchange

variable {x : Exchange} {id : UInt64} {t : UInt32}

/-- There are as many packets as are sent. -/
@[simp] lemma length_packets (x : Exchange) : x.packets.length = x.sent.length := List.length_map ..

/-- Where time passes before an exchange, nothing is sent meanwhile. -/
lemma Takes.of_pass {nanos : Nat} {s s' : Socket} (h : x.Takes (s.pass nanos) s') : x.Takes s s' :=
  ⟨h.repeats, h.sent⟩

/-- The packet of the request is sent. -/
lemma Repeats.sends (h : x.Repeats) : x.request.packet ∈ x.packets := by
  obtain ⟨n, packets⟩ := h
  rw [packets]
  exact List.mem_replicate.mpr ⟨n.succ_ne_zero, rfl⟩

/-- Something is sent. -/
lemma Repeats.sent_ne_nil (h : x.Repeats) : x.sent ≠ [] := by
  intro none
  have sends := h.sends
  rw [packets, none] at sends
  cases sends

/-- No other packet is sent. -/
lemma Repeats.only {p : Bytes} (h : x.Repeats) (mem : p ∈ x.packets) : p = x.request.packet := by
  obtain ⟨n, packets⟩ := h
  rw [packets] at mem
  exact List.eq_of_mem_replicate mem

/-- A request to connect yields a connection id exactly if its exchange does. -/
lemma yields_iff (opens : x.request = .connect t) : x.Yields id ↔ x.connection = .ok id := by
  fun_cases connection x with
  | case1 e failed =>
    constructor
    · rintro ⟨t', d, -, read, -⟩
      rw [failed] at read
      cases read
    · nofun
  | case2 d read =>
    rw [opens, Request.transaction, connectionOf_eq_ok]
    constructor
    · rintro ⟨t', d', opens', read', grants⟩
      rw [opens] at opens'
      rw [read] at read'
      cases opens'
      cases read'
      exact grants
    · exact fun grants => ⟨t, d, opens, read, grants⟩

end Exchange

/-! ## Calls -/

namespace Client

variable {k : Call} {c c' : Client} {id : UInt64}

/-- A connection id that is still good when a call begins was at hand before it. -/
lemma exists_of_current? {nanos : Nat} (h : (c.pass nanos).current? = some id) :
    ∃ held, c.connection = some held ∧ held.id = id := by
  revert h
  fun_cases current? (c.pass nanos) with
  | case1 held holds =>
    rintro ⟨⟩
    exact ⟨held, holds, rfl⟩
  | _ => nofun

/-- With a good connection id at hand, nothing is sent for one. -/
lemma connect_held (k : Call) (tracker : String) (policy : Policy) (remote : Remote)
    (current : c.current? = some id) :
    c.connect tracker policy remote k.draw = (.ok id, c) := by
  rw [connect, current]

/-- Without one, the request to connect decides. -/
lemma connect_stale (k : Call) (tracker : String) (policy : Policy) (remote : Remote)
    (stale : c.current? = none) :
    c.connect tracker policy remote k.draw =
      let s := k.connecting.after tracker policy remote c.socket
      match (k.connecting.exchanged tracker policy remote c.socket).connection with
      | .error e => (.error e, { c with socket := s })
      | .ok id => (.ok id, ⟨s.pass k.draw.lag, some ⟨id, s.now + k.draw.lag⟩⟩) := by
  rw [connect, stale]
  simp only [Call.connecting, Request.exchanged, Request.after, Request.packet,
    Exchange.connection, Request.transaction]
  rcases exchange tracker policy remote (connectRequest k.draw.connecting) c.socket with ⟨_ | d, s⟩
  · rfl
  · cases connectionOf d k.draw.connecting <;> rfl

/-- With a connection id, a call makes its announce and answers what that exchange yields. -/
lemma announce_connected
    (connected : (c.pass k.draw.idle).connect tracker policy remote k.draw = (.ok id, c')) :
    c.announce tracker policy remote k.draw k.content =
      (((k.announcing id).exchanged tracker policy remote c'.socket).reply policy,
        { c' with socket := (k.announcing id).after tracker policy remote c'.socket }) := by
  rw [announce, connected]
  simp only [Call.announcing, Request.exchanged, Request.after, Request.packet,
    Exchange.reply, Request.transaction]
  rcases exchange tracker policy remote
    (announceRequest id k.draw.announcing k.draw.key k.content) c'.socket with ⟨_ | d, s⟩ <;> rfl

/-- What a call can do with a client is what a course tells. -/
theorem course (k : Call) (c : Client) :
    Course policy k c (c.exchanges tracker policy remote k) (c.answer tracker policy remote k)
      (c.after tracker policy remote k) := by
  cases current : (c.pass k.draw.idle).current? with
  | some id =>
    have connected := connect_held k tracker policy remote current
    rw [exchanges, answer, after, announce_connected connected, connected, current]
    exact .held current rfl (Request.exchanged_takes ..).of_pass
  | none =>
    have connected := connect_stale k tracker policy remote current
    cases obtained : (k.connecting.exchanged tracker policy remote
      (c.pass k.draw.idle).socket).connection with
    | error e =>
      rw [obtained] at connected
      rw [exchanges, answer, after, announce, connected, current]
      exact .refused current rfl (Request.exchanged_takes ..).of_pass obtained
    | ok id =>
      rw [obtained] at connected
      rw [exchanges, answer, after, announce_connected connected, connected, current]
      exact .granted current rfl (Request.exchanged_takes ..).of_pass obtained rfl
        (Request.exchanged_takes ..).of_pass

end Client

variable {k : Call} {c c' : Client} {xs : List Exchange} {answer : Except Error Reply} {x : Exchange}

namespace Course

/-- A call sends what its exchanges send. -/
lemma sent (h : Course policy k c xs answer c') :
    c'.socket.sent = c.socket.sent ++ xs.flatMap (·.sent) := by
  cases h with
  | held _ _ takes | refused _ _ takes _ => simp [takes.sent]
  | granted _ _ takes _ _ takes' => simp [takes'.sent, takes.sent]

/-- Each exchange of a call sends the packet of its request, and nothing else. -/
lemma repeats (h : Course policy k c xs answer c') (mem : x ∈ xs) : x.Repeats := by
  cases h with
  | held _ _ takes | refused _ _ takes _ =>
    rw [List.mem_singleton.mp mem]
    exact takes.repeats
  | granted _ _ takes _ _ takes' =>
    rw [List.mem_cons, List.mem_singleton] at mem
    rcases mem with rfl | rfl
    · exact takes.repeats
    · exact takes'.repeats

end Course

namespace Client

/-- Calls in a row send what their exchanges send. -/
theorem run_sent (calls : List Call) (c : Client) :
    (c.run tracker policy remote calls).socket.sent =
      c.socket.sent ++ (c.history tracker policy remote calls).flatMap (·.sent) := by
  induction calls generalizing c with
  | nil => exact (List.append_nil _).symm
  | cons k calls ih =>
    calc ((c.after tracker policy remote k).run tracker policy remote calls).socket.sent
      _ = (c.after tracker policy remote k).socket.sent ++ _ := ih _
      _ = _ := by rw [(c.course k).sent, history, List.flatMap_append, List.append_assoc]

/-- Each exchange of calls in a row sends the packet of its request, and nothing else. -/
theorem history_repeats {calls : List Call} {c : Client}
    (mem : x ∈ c.history tracker policy remote calls) : x.Repeats := by
  induction calls generalizing c with
  | nil => cases mem
  | cons k calls ih =>
    rcases List.mem_append.mp mem with now | later
    · exact (c.course k).repeats now
    · exact ih later

end Client

end Swarm.Tracker.Udp
