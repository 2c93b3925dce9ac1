import Mathlib.Data.List.Nodup
import Swarm.Proofs.Tracker.Udp.History

/-!
# Where replies come from

Datagrams can arrive late, twice, damaged or from elsewhere, and one that was left over by an
exchange is read in the next. Whatever arrives, a client takes nothing as an answer but what carries
the transaction id of the request that it has just made, and announces only under connection ids that
were granted to requests of its own.
-/

namespace Swarm.Tracker.Udp

variable {tracker : String} {policy : Policy} {remote : Remote}
variable {k : Call} {c c' : Client} {xs made : List Exchange} {x y : Exchange}
variable {answer : Except Error Reply} {d : Bytes} {id : UInt64}

namespace Exchange

/-- The exchange takes a datagram as the answer to its request. -/
def Accepts (policy : Policy) (x : Exchange) (d : Bytes) : Prop :=
  x.outcome = .ok d ∧
    match x.request with
    | .connect t => ∃ id, connectionOf d t = .ok id
    | .announce _ t _ _ => ∃ reply, replyOf d t policy.strictCount = .ok reply

/-- What is accepted carries the transaction id of the request. -/
lemma Accepts.transaction (h : x.Accepts policy d) : transactionOf d = x.request.transaction := by
  obtain ⟨-, taken⟩ := h
  cases asks : x.request with
  | connect t =>
    rw [asks] at taken
    obtain ⟨id, granted⟩ := taken
    exact (connectionOf_eq_ok.mp granted).transaction
  | announce =>
    rw [asks] at taken
    obtain ⟨reply, replied⟩ := taken
    exact (replyOf_header replied).2.2

/-- A datagram with another transaction id yields that mismatch and no connection id. -/
lemma connection_mismatch (read : x.outcome = .ok d) (long : 8 ≤ d.length)
    (other : transactionOf d ≠ x.request.transaction) :
    x.connection = .error (.transactionMismatch x.request.transaction (transactionOf d)) := by
  rw [connection, read]
  exact connectionOf_mismatch long other

/-- A datagram with another transaction id yields that mismatch and no reply. -/
lemma reply_mismatch (read : x.outcome = .ok d) (long : 8 ≤ d.length)
    (other : transactionOf d ≠ x.request.transaction) :
    x.reply policy = .error (.transactionMismatch x.request.transaction (transactionOf d)) := by
  rw [reply, read]
  exact replyOf_mismatch long other

/-- A reply is read from a datagram. -/
lemma reply_eq_ok {r : Reply} (h : x.reply policy = .ok r) :
    ∃ d, x.outcome = .ok d ∧ replyOf d x.request.transaction policy.strictCount = .ok r := by
  revert h
  fun_cases reply x policy with
  | case1 => nofun
  | case2 d read => exact fun replied => ⟨d, read, replied⟩

end Exchange

/-- The connection id that a client holds, if any, was granted in one of these exchanges. -/
def Vouched (made : List Exchange) (c : Client) : Prop :=
  ∀ held, c.connection = some held → ∃ x ∈ made, x.Yields held.id

namespace Course

/-- An announce goes out under a connection id that was granted before it. -/
lemma granted_before (h : Course policy k c xs answer c') (vouched : Vouched made c) (mem : x ∈ xs)
    (asks : x.request = k.announcing id) : ∃ y ∈ made ++ xs, y.Yields id := by
  cases h with
  | held current asks' =>
    rw [List.mem_singleton.mp mem, asks'] at asks
    cases asks
    -- the connection id at hand is from an earlier call
    obtain ⟨held, holds, rfl⟩ := Client.exists_of_current? current
    obtain ⟨y, mem, yields⟩ := vouched held holds
    exact ⟨y, List.mem_append_left _ mem, yields⟩
  | refused _ opens =>
    rw [List.mem_singleton.mp mem, opens] at asks
    cases asks
  | @granted _ z _ _ _ _ opens _ obtained asks' =>
    rw [List.mem_cons, List.mem_singleton] at mem
    rcases mem with rfl | rfl
    · rw [opens] at asks
      cases asks
    · rw [asks'] at asks
      cases asks
      exact ⟨z, by simp, (Exchange.yields_iff opens).mpr obtained⟩

/-- What a call answers is the reply to its announce. -/
lemma replied {reply : Reply} (h : Course policy k c xs answer c') (ok : answer = .ok reply) :
    ∃ x ∈ xs, ∃ id, x.request = k.announcing id ∧ x.reply policy = .ok reply := by
  cases h with
  | held _ asks => exact ⟨_, List.mem_singleton_self _, _, asks, ok⟩
  | refused => cases ok
  | granted _ _ _ _ asks => exact ⟨_, by simp, _, asks, ok⟩

/-- Another transaction id ends the call, in whichever of its exchanges it is read. -/
lemma mismatch (h : Course policy k c xs answer c') (mem : x ∈ xs) (read : x.outcome = .ok d)
    (long : 8 ≤ d.length) (other : transactionOf d ≠ x.request.transaction) :
    answer = .error (.transactionMismatch x.request.transaction (transactionOf d)) := by
  cases h with
  | held =>
    cases List.mem_singleton.mp mem
    exact Exchange.reply_mismatch read long other
  | refused _ _ _ failed =>
    cases List.mem_singleton.mp mem
    rw [Exchange.connection_mismatch read long other] at failed
    cases failed
    rfl
  | granted _ _ _ obtained =>
    rw [List.mem_cons, List.mem_singleton] at mem
    rcases mem with rfl | rfl
    · -- no connection id comes from such a datagram
      rw [Exchange.connection_mismatch read long other] at obtained
      cases obtained
    · exact Exchange.reply_mismatch read long other

/-- A call leaves a connection id that an exchange before it yields, or one of its own. -/
lemma vouched (h : Course policy k c xs answer c') (before : Vouched made c) :
    Vouched (made ++ xs) c' := by
  cases h with
  | held | refused =>
    intro held holds
    obtain ⟨x, mem, yields⟩ := before held holds
    exact ⟨x, List.mem_append_left _ mem, yields⟩
  | granted _ opens _ obtained =>
    rintro held ⟨⟩
    have yields := (Exchange.yields_iff opens).mpr obtained
    exact ⟨_, by simp, yields⟩

end Course

namespace Client

/-- Calls in a row leave a client with a connection id that one of their exchanges yields. -/
theorem run_vouched (calls : List Call) (before : Vouched made c) :
    Vouched (made ++ c.history tracker policy remote calls) (c.run tracker policy remote calls) := by
  induction calls generalizing made c with
  | nil =>
    rw [history, List.append_nil]
    exact before
  | cons k calls ih =>
    rw [history, ← List.append_assoc]
    exact ih ((c.course k).vouched before)

/-- In a call of a client that has made any calls, whatever its tracker sends: what the call answers
is the reply to its own announce, in a datagram of that kind that repeats the four bytes of that
packet's transaction id, and the announce goes out under a connection id that was granted to a
request of the client to connect. A datagram with another transaction id ends the call with that
mismatch. So while transaction ids differ, what carries the one of a request is never taken as the
answer to another. -/
theorem announce_correlated (tracker : String) (policy : Policy) (remote : Remote)
    (calls : List Call) (k : Call) :
    let c := fresh.run tracker policy remote calls
    let now := c.exchanges tracker policy remote k
    let made := fresh.history tracker policy remote calls ++ now
    let answer := c.answer tracker policy remote k
    (c.after tracker policy remote k).socket.sent = made.flatMap (·.sent) ∧
      (∀ reply, answer = .ok reply → ∃ id, ∃ x ∈ now, ∃ d,
        x.request = .announce id k.draw.announcing k.draw.key k.content ∧
          x.request.packet ∈ x.packets ∧ x.outcome = .ok d ∧
          actionOf d = 1 ∧ transactionOf d = k.draw.announcing ∧
          (d.drop 4).take 4 = (x.request.packet.drop 12).take 4 ∧
          replyOf d k.draw.announcing policy.strictCount = .ok reply ∧
          ∃ y ∈ made, ∃ t d', y.request = .connect t ∧ y.request.packet ∈ y.packets ∧
            y.outcome = .ok d' ∧ Grants t d' id ∧
            (d'.drop 4).take 4 = (y.request.packet.drop 12).take 4 ∧
            x.request.packet.take 8 = (d'.drop 8).take 8) ∧
      (∀ x ∈ now, ∀ d, x.outcome = .ok d → 8 ≤ d.length →
        transactionOf d ≠ x.request.transaction →
          answer = .error (.transactionMismatch x.request.transaction (transactionOf d))) ∧
      ((made.map (·.request.transaction)).Nodup →
        ∀ x ∈ made, ∀ y ∈ made, ∀ d, x.Accepts policy d →
          transactionOf d = y.request.transaction → x = y) := by
  intro c now made answer
  have course : Course policy k c now answer _ := c.course k
  have sent {x} (mem : x ∈ made) : x.request.packet ∈ x.packets := by
    rcases List.mem_append.mp mem with earlier | mem
    · exact (history_repeats earlier).sends
    · exact (course.repeats mem).sends
  refine ⟨?_, ?_, ?_, ?_⟩
  · rw [course.sent, run_sent, List.flatMap_append]
    rfl
  · intro reply ok
    obtain ⟨x, mem, id, asks, replied⟩ := course.replied ok
    obtain ⟨d, read, replied⟩ := Exchange.reply_eq_ok replied
    rw [asks] at replied
    obtain ⟨long, action, transaction⟩ := replyOf_header replied
    have start : Vouched [] fresh := nofun
    have vouched : Vouched (fresh.history tracker policy remote calls) c := run_vouched calls start
    obtain ⟨y, mem', t, d', opens, read', grants⟩ := course.granted_before vouched mem asks
    have connects := grants.length
    refine ⟨id, x, mem, d, asks, sent (List.mem_append_right _ mem), read, action, transaction, ?_,
      replied, y, mem', t, d', opens, sent mem', read', grants, ?_, ?_⟩
    · rw [asks]
      exact Request.repeated transaction (by omega)
    · rw [opens]
      exact Request.repeated grants.transaction (by omega)
    · rw [asks, grants.id]
      exact take_announceRequest
  · intro x mem d read long other
    exact course.mismatch mem read long other
  · intro distinct x mem y mem' d accepts same
    apply List.inj_on_of_nodup_map distinct mem mem'
    exact accepts.transaction.symm.trans same

/-- The packet of the first call is sent twice and answered twice. The second answer is left over and
ends the first announce; the next call is answered under the connection id of the first. -/
theorem announce_correlated_late_duplicate :
    let granted : Bytes := [0, 0, 0, 0, 0, 0, 0, 7, 0, 0, 0, 0, 0, 0, 0, 42]
    let replied : Bytes :=
      [0, 0, 0, 1, 0, 0, 0, 11, 0, 0, 7, 8, 0, 0, 0, 0, 0, 0, 0, 1, 127, 0, 0, 1, 26, 225]
    let remote : Remote := fun sent =>
      .ok (if sent.length = 2 then [⟨1, .datagram granted⟩, ⟨2, .datagram granted⟩]
        else if sent.length = 4 then [⟨1, .datagram replied⟩] else [])
    let policy : Policy := ⟨.ofSecs 5, 1, true⟩
    let first : Call := ⟨⟨0, 0, 7, 8, 9⟩, .start .zero .zero 6881 1⟩
    let second : Call := ⟨⟨2, 3, 10, 11, 12⟩, .start .zero .zero 6881 1⟩
    let c := fresh.run "tracker" policy remote [first]
    let made := fresh.history "tracker" policy remote [first] ++
      c.exchanges "tracker" policy remote second
    fresh.answer "tracker" policy remote first = .error (.transactionMismatch 8 7) ∧
      c.answer "tracker" policy remote second = .ok ⟨1800, 0, 1, [⟨⟨127, 0, 0, 1⟩, 6881⟩]⟩ ∧
      (∃ id, ∃ y ∈ made, ∃ t d, y.request = .connect t ∧ y.outcome = .ok d ∧ Grants t d id) ∧
      ∀ x ∈ made, ∀ y ∈ made, x.Accepts policy granted →
        transactionOf granted = y.request.transaction → x = y := by
  intro granted replied remote policy first second c made
  obtain ⟨x, mem, read, other⟩ : ∃ x ∈ fresh.exchanges "tracker" policy remote first,
      x.outcome = .ok granted ∧ x.request.transaction = 8 := by decide +kernel
  have ok : c.answer "tracker" policy remote second =
      .ok ⟨1800, 0, 1, [⟨⟨127, 0, 0, 1⟩, 6881⟩]⟩ := by decide +kernel
  have distinct : (made.map (·.request.transaction)).Nodup := by decide +kernel
  obtain ⟨-, -, mismatch, -⟩ := announce_correlated "tracker" policy remote [] first
  obtain ⟨-, replies, -, apart⟩ := announce_correlated "tracker" policy remote [first] second
  refine ⟨?_, ok, ?_, fun x mem y mem' accepts => apart distinct x mem y mem' granted accepts⟩
  · have crossed : transactionOf granted = 7 := by decide +kernel
    have ended := mismatch x mem granted read (by decide) (by rw [crossed, other]; decide)
    rwa [crossed, other] at ended
  · obtain ⟨id, -, -, -, -, -, -, -, -, -, -, y, mem, t, d, opens, -, read, grants, -⟩ :=
      replies _ ok
    exact ⟨id, y, mem, t, d, opens, read, grants⟩

end Client

end Swarm.Tracker.Udp
