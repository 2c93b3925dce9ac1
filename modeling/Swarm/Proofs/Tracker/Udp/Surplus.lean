import Swarm.Proofs.Tracker.Udp.Provenance

/-!
# Surplus replies

A tracker that answers every copy of a packet sends one reply more than the client reads for every
copy after the first. The client does not look for such replies, so they stay in the queue, and each
later exchange reads one of them in place of its own reply. Up to the first packet that was sent
again, and in the exchange of that packet itself, every exchange reads its own reply.
-/

namespace Swarm.Tracker.Udp

open Swarm.Time (Timed Timeline)

/-- The datagram is a correct reply to the request: of its kind, with its transaction id and a valid
body. -/
def Request.AnsweredBy (strict : Bool) : Request → Bytes → Prop
  | connect t, d => ∃ id, Grants t d id
  | announce _ t _ _, d => ∃ r, Reports strict t d r

/-- The tracker answers every copy of a packet of an exchange with a correct reply, and all these
replies arrive in the last attempt. -/
structure Answered (policy : Policy) (remote : Remote) (earlier : List (Timed Bytes)) (x : Exchange) :
    Prop where
  count : (remote.brings earlier x.sent).length = x.sent.length
  correct : ∀ a ∈ remote.brings earlier x.sent, ∃ d, a.event = .datagram d ∧
    x.request.AnsweredBy policy.strictCount d
  timely : ∀ a ∈ remote.brings earlier x.sent, ∀ last ∈ x.sent.getLast?,
    a.moment ≤ last.moment + (policy.wait (x.sent.length - 1)).nanos

/-- In exchanges that are made in a row after some packets were sent, the tracker answers every copy of
a packet in time. -/
inductive AnswersEach (policy : Policy) (remote : Remote) :
    List (Timed Bytes) → List Exchange → Prop where
  | nil {earlier} :
    AnswersEach policy remote earlier []
  | cons {earlier x xs} :
    Answered policy remote earlier x →
    AnswersEach policy remote (earlier ++ x.sent) xs →
    AnswersEach policy remote earlier (x :: xs)

/-- In exchanges that are made in a row after some packets were sent, what one of them brings does not
arrive after what the later ones bring. -/
inductive InOrder (remote : Remote) : List (Timed Bytes) → List Exchange → Prop where
  | nil {earlier} :
    InOrder remote earlier []
  | cons {earlier x xs} :
    (∀ a ∈ remote.brings earlier x.sent,
      ∀ b ∈ remote.brings (earlier ++ x.sent) (xs.flatMap (·.sent)), a.moment ≤ b.moment) →
    InOrder remote (earlier ++ x.sent) xs →
    InOrder remote earlier (x :: xs)

/-- Requests that were made in a row, from one state of a socket to another. Time may pass before
each. -/
inductive InRow (tracker : String) (policy : Policy) (remote : Remote) :
    Socket → List Exchange → Socket → Prop where
  | nil {s} : InRow tracker policy remote s [] s
  | cons {s s' xs} (nanos : Nat) (r : Request) :
    InRow tracker policy remote (r.after tracker policy remote (s.pass nanos)) xs s' →
    InRow tracker policy remote s (r.exchanged tracker policy remote (s.pass nanos) :: xs) s'

/-- What is queued after these exchanges: replies to their requests, and none if each of them sent its
packet once. -/
structure Backlog (policy : Policy) (remote : Remote) (made : List Exchange)
    (queue : Timeline Arrival) : Prop where
  sends : ∀ y ∈ made, y.sent ≠ []
  count : queue.events.length + made.length = (made.flatMap (·.sent)).length
  brought : queue.events ⊆ remote.brings [] (made.flatMap (·.sent))
  replies : ∀ a ∈ queue.events, ∃ d, a.event = .datagram d ∧
    ∃ y ∈ made, y.request.AnsweredBy policy.strictCount d

variable {tracker : String} {policy : Policy} {remote : Remote} {strict : Bool}
variable {k : Call} {c c' : Client} {xs ys made : List Exchange} {x y : Exchange} {r : Request}
variable {s s' s'' : Socket} {d : Bytes} {earlier : List (Timed Bytes)} {queue : Timeline Arrival}

/-! ## Correct replies -/

/-- A correct reply repeats the transaction id. -/
lemma Request.AnsweredBy.transaction (h : r.AnsweredBy strict d) :
    transactionOf d = r.transaction := by
  cases r with
  | connect =>
    obtain ⟨id, grants⟩ := h
    exact grants.transaction
  | announce =>
    obtain ⟨reply, reports⟩ := h
    exact reports.transaction

/-- A correct reply is long enough for a transaction id. -/
lemma Request.AnsweredBy.long (h : r.AnsweredBy strict d) : 8 ≤ d.length := by
  cases r with
  | connect =>
    obtain ⟨id, grants⟩ := h
    have := grants.length
    omega
  | announce =>
    obtain ⟨reply, reports⟩ := h
    have := (replyOf_header (replyOf_eq_ok.mpr reports)).1
    omega

/-! ## Exchanges in a row -/

/-- If exchanges are answered, those up to some place and those after it are. -/
lemma AnswersEach.split (h : AnswersEach policy remote earlier (xs ++ ys)) :
    AnswersEach policy remote earlier xs ∧
      AnswersEach policy remote (earlier ++ xs.flatMap (·.sent)) ys := by
  induction xs generalizing earlier with
  | nil => exact ⟨.nil, by simpa using h⟩
  | cons x xs ih =>
    cases h with
    | cons answered rest =>
      obtain ⟨first, second⟩ := ih rest
      rw [List.append_assoc] at second
      exact ⟨.cons answered first, second⟩

/-- What some exchanges bring does not arrive after what a later one brings. -/
lemma InOrder.before (h : InOrder remote earlier (xs ++ [x])) :
    ∀ a ∈ remote.brings earlier (xs.flatMap (·.sent)),
      ∀ b ∈ remote.brings (earlier ++ xs.flatMap (·.sent)) x.sent, a.moment ≤ b.moment := by
  induction xs generalizing earlier with
  | nil => nofun
  | cons y xs ih =>
    rw [List.cons_append] at h
    obtain _ | ⟨first, rest⟩ := h
    rw [List.flatMap_append, List.flatMap_singleton, remote.brings_append] at first
    rw [List.flatMap_cons, remote.brings_append, ← List.append_assoc]
    intro a mem b mem'
    rcases List.mem_append.mp mem with now | later
    · exact first a now b (List.mem_append_right _ mem')
    · exact ih rest a later b mem'

/-- Requests in a row go on where others end. -/
lemma InRow.append (h : InRow tracker policy remote s xs s')
    (h' : InRow tracker policy remote s' ys s'') :
    InRow tracker policy remote s (xs ++ ys) s'' := by
  induction h with
  | nil => exact h'
  | cons nanos r _ ih => exact .cons nanos r (ih h')

/-- Requests in a row can be taken apart at any place. -/
lemma InRow.split (h : InRow tracker policy remote s (xs ++ ys) s'') :
    ∃ s', InRow tracker policy remote s xs s' ∧ InRow tracker policy remote s' ys s'' := by
  induction xs generalizing s with
  | nil => exact ⟨s, .nil, h⟩
  | cons x xs ih =>
    cases h with
    | cons nanos r rest =>
      obtain ⟨s', first, second⟩ := ih rest
      exact ⟨s', .cons nanos r first, second⟩

/-- Requests in a row send what their exchanges send. -/
lemma InRow.sent (h : InRow tracker policy remote s xs s') :
    s'.sent = s.sent ++ xs.flatMap (·.sent) := by
  induction h with
  | nil => simp
  | cons nanos r _ ih =>
    rw [ih, (r.exchanged_takes _).sent, List.flatMap_cons, List.append_assoc, Socket.sent_pass]

namespace Client

/-- The exchanges of a call are made in a row. -/
lemma exchanges_inRow (k : Call) (c : Client) :
    InRow tracker policy remote c.socket (c.exchanges tracker policy remote k)
      (c.after tracker policy remote k).socket := by
  cases current : (c.pass k.draw.idle).current? with
  | some id =>
    have connected := connect_held k tracker policy remote current
    rw [exchanges, after, announce_connected connected, connected, current]
    exact .cons _ _ .nil
  | none =>
    have connected := connect_stale k tracker policy remote current
    cases obtained : (k.connecting.exchanged tracker policy remote
      (c.pass k.draw.idle).socket).connection with
    | error e =>
      rw [obtained] at connected
      rw [exchanges, after, announce, connected, current]
      exact .cons _ _ .nil
    | ok id =>
      rw [obtained] at connected
      rw [exchanges, after, announce_connected connected, connected, current]
      exact .cons _ _ (.cons _ _ .nil)

/-- The exchanges of calls in a row are made in a row. -/
lemma history_inRow (calls : List Call) (c : Client) :
    InRow tracker policy remote c.socket (c.history tracker policy remote calls)
      (c.run tracker policy remote calls).socket := by
  induction calls generalizing c with
  | nil => exact .nil
  | cons k calls ih => exact (c.exchanges_inRow k).append (ih _)

end Client

/-! ## What an exchange reads -/

/-- An exchange whose copies are answered in time takes the first of what is queued and what the copies
bring. -/
lemma Request.exchanged_first (r : Request) (s : Socket)
    (answered : Answered policy remote s.sent (r.exchanged tracker policy remote s)) :
    ∃ first, (s.queue.addAll (remote.brings s.sent
        (r.exchanged tracker policy remote s).sent)).first? =
          some (first, (r.after tracker policy remote s).queue) ∧
      (r.exchanged tracker policy remote s).outcome = first.event.outcome tracker := by
  obtain ⟨a, -, first, s', -, ends, outcome⟩ | ⟨never, outcome⟩ :=
    exchange_cases tracker policy remote r.packet s
  · have sent := sent_exchanged (r := r) (by rw [outcome, ends.sent])
    have correct := answered.correct
    rw [sent] at correct ⊢
    rw [after, exchanged, outcome]
    cases ends with
    | refused refuses =>
      -- the fault of a copy is no correct reply to it
      obtain ⟨d, reply, -⟩ := correct _ (Socket.fault_brought refuses)
      cases reply
    | @taken first queue next => exact ⟨first, next, rfl⟩
  · -- a reply in time would have ended the last wait
    have sent : (r.exchanged tracker policy remote s).sent =
        s.copies policy r.packet (policy.retries + 1) :=
      sent_exchanged (by rw [outcome, Socket.waited])
    obtain ⟨count, -, timely⟩ := answered
    rw [sent, Socket.length_copies] at count timely
    obtain ⟨reply, mem⟩ := List.exists_mem_of_length_pos (by rw [count]; exact Nat.succ_pos _)
    have late := never _ le_rfl reply (s.brings_subset _ mem)
    have early : reply.moment ≤ s.now + policy.passed policy.retries +
        (policy.wait policy.retries).nanos :=
      timely reply mem ⟨_, r.packet⟩ (by rw [Socket.copies_succ]; exact List.getLast?_concat ..)
    rw [policy.passed_succ] at late
    omega

/-- Where every exchange sends something, they send at least one packet each together, and exactly that
if none of them sends its packet again. -/
lemma length_sent (sends : ∀ y ∈ made, y.sent ≠ []) :
    made.length ≤ (made.flatMap (·.sent)).length ∧
      ((made.flatMap (·.sent)).length = made.length ↔ ∀ y ∈ made, y.packets.length = 1) := by
  induction made with
  | nil => simp
  | cons y made ih =>
    obtain ⟨now, later⟩ := List.forall_mem_cons.mp sends
    obtain ⟨least, single⟩ := ih later
    have some := List.length_pos_iff.mpr now
    rw [List.flatMap_cons, List.length_append, List.length_cons, List.forall_mem_cons, ← single,
      Exchange.length_packets]
    omega

/-- Nothing is queued before the first exchange. -/
lemma Backlog.fresh : Backlog policy remote [] Socket.fresh.queue where
  sends _ mem := by cases mem
  count := rfl
  brought := List.nil_subset _
  replies _ mem := by cases mem

/-- Nothing is queued after these exchanges exactly if each of them sent its packet once. -/
lemma Backlog.empty_iff (h : Backlog policy remote made queue) :
    queue.events = [] ↔ ∀ y ∈ made, y.packets.length = 1 := by
  rw [← (length_sent h.sends).2, ← h.count, ← List.length_eq_zero_iff]
  omega

/-- What an exchange takes, where its copies are answered in time. -/
lemma InRow.takes (h : InRow tracker policy remote s [x] s')
    (answered : Answered policy remote s.sent x) :
    x.sent ≠ [] ∧ ∃ first, (s.queue.addAll (remote.brings s.sent x.sent)).first? =
      some (first, s'.queue) ∧ x.outcome = first.event.outcome tracker := by
  cases h with
  | cons nanos r last =>
    cases last
    have repeats : (r.exchanged tracker policy remote (s.pass nanos)).Repeats :=
      (r.exchanged_takes _).repeats
    have taken := r.exchanged_first (s.pass nanos) answered
    rw [Socket.queue_pass, Socket.sent_pass] at taken
    exact ⟨repeats.sent_ne_nil, taken⟩

/-- Replies that are added to a backlog, of which the first is taken, leave a backlog again. -/
lemma Backlog.step {queue' : Timeline Arrival} {first : Timed Arrival}
    (h : Backlog policy remote made queue) (sends : x.sent ≠ [])
    (answered : Answered policy remote (made.flatMap (·.sent)) x)
    (next : (queue.addAll (remote.brings (made.flatMap (·.sent)) x.sent)).first? =
      some (first, queue')) :
    Backlog policy remote (made ++ [x]) queue' := by
  have perm := queue.addAll_perm (remote.brings (made.flatMap (·.sent)) x.sent)
  rw [Timeline.first?_eq_some.mp next] at perm
  have inside {a : Timed Arrival} (mem : a ∈ queue'.events) :
      a ∈ queue.events ∨ a ∈ remote.brings (made.flatMap (·.sent)) x.sent :=
    List.mem_append.mp (perm.mem_iff.mp (List.mem_cons_of_mem first mem))
  constructor
  · exact List.forall_mem_append.mpr ⟨h.sends, List.forall_mem_singleton.mpr sends⟩
  · have size := perm.length_eq
    have before := h.count
    rw [List.length_append, answered.count, List.length_cons] at size
    rw [List.flatMap_append, List.flatMap_singleton, List.length_append, List.length_append,
      List.length_singleton]
    omega
  · intro a mem
    rw [List.flatMap_append, List.flatMap_singleton, remote.brings_append, List.nil_append]
    exact List.mem_append.mpr ((inside mem).imp_left fun queued => h.brought queued)
  · intro a mem
    rcases inside mem with queued | own
    · obtain ⟨d, same, y, mem, correct⟩ := h.replies a queued
      exact ⟨d, same, y, List.mem_append_left _ mem, correct⟩
    · obtain ⟨d, same, correct⟩ := answered.correct a own
      exact ⟨d, same, x, by simp, correct⟩

/-- Of replies that are added to nothing, one of them is taken. -/
lemma Backlog.own {queue' : Timeline Arrival} {first : Timed Arrival} (none : queue.events = [])
    (answered : Answered policy remote earlier x)
    (next : (queue.addAll (remote.brings earlier x.sent)).first? = some (first, queue')) :
    first ∈ remote.brings earlier x.sent ∧
      ∃ d, first.event = .datagram d ∧ x.request.AnsweredBy policy.strictCount d := by
  have perm := queue.addAll_perm (remote.brings earlier x.sent)
  rw [Timeline.first?_eq_some.mp next, none, List.nil_append] at perm
  have mem := perm.mem_iff.mp List.mem_cons_self
  exact ⟨mem, answered.correct first mem⟩

/-- Where replies are added to a backlog and do not arrive before it, one of the backlog is taken. -/
lemma Backlog.surplus {queue' : Timeline Arrival} {first : Timed Arrival}
    (h : Backlog policy remote made queue) (some : queue.events ≠ [])
    (order : InOrder remote [] (made ++ [x]))
    (next : (queue.addAll (remote.brings (made.flatMap (·.sent)) x.sent)).first? =
      .some (first, queue')) :
    ∃ d, first.event = .datagram d ∧ ∃ y ∈ made, y.request.AnsweredBy policy.strictCount d := by
  rcases earliest : queue.first? with _ | ⟨oldest, rest⟩
  · exact absurd (Timeline.first?_eq_none.mp earliest) some
  · have mem : oldest ∈ queue.events := by
      rw [Timeline.first?_eq_some.mp earliest]
      exact List.mem_cons_self
    obtain ⟨_, still⟩ := Timeline.first?_addAll earliest (order.before oldest (h.brought mem))
    rw [List.nil_append] at still
    cases next.symm.trans still
    exact h.replies _ mem

/-- Exchanges in a row whose copies are answered in time leave a backlog. -/
lemma InRow.backlog (h : InRow tracker policy remote s xs s')
    (answers : AnswersEach policy remote s.sent xs) (sent : s.sent = made.flatMap (·.sent))
    (before : Backlog policy remote made s.queue) : Backlog policy remote (made ++ xs) s'.queue := by
  induction xs generalizing s made with
  | nil =>
    cases h
    rwa [List.append_nil]
  | cons x xs ih =>
    rw [← List.singleton_append] at h
    obtain ⟨s₁, now, others⟩ := h.split
    obtain _ | ⟨answered, later⟩ := answers
    obtain ⟨sends, first, next, -⟩ := now.takes answered
    have after : s₁.sent = s.sent ++ x.sent := by simpa using now.sent
    rw [sent] at next answered
    rw [List.append_cons]
    refine ih others (by rwa [after]) ?_ (before.step sends answered next)
    rw [after, sent, List.flatMap_append, List.flatMap_singleton]

/-! ## Calls -/

/-- The last exchange of a call is the one that decides its answer. -/
lemma Course.last {answer : Except Error Reply} (h : Course policy k c xs answer c') :
    ∃ init x, xs = init ++ [x] ∧
      ((∃ id, x.request = k.announcing id ∧ answer = x.reply policy) ∨
        x.request = k.connecting ∧ ∃ e, x.connection = .error e ∧ answer = .error e) := by
  cases h with
  | @held id x _ _ asks => exact ⟨[], x, rfl, .inl ⟨id, asks, rfl⟩⟩
  | @refused x _ e _ opens _ failed => exact ⟨[], x, rfl, .inr ⟨opens, e, failed, rfl⟩⟩
  | @granted id x y _ _ _ _ _ _ asks => exact ⟨[x], y, rfl, .inl ⟨id, asks, rfl⟩⟩

/-- The answer of a call whose last exchange reads a correct reply to its request. -/
lemma Course.answered {answer : Except Error Reply} (h : Course policy k c (xs ++ [x]) answer c')
    (read : x.outcome = .ok d) (answered : x.request.AnsweredBy policy.strictCount d) :
    ∃ id r, x.request = k.announcing id ∧ Reports policy.strictCount k.draw.announcing d r ∧
      answer = .ok r := by
  obtain ⟨init, x', eq, last⟩ := h.last
  obtain ⟨rfl, same⟩ := List.append_inj' eq rfl
  obtain rfl := List.singleton_inj.mp same
  rcases last with ⟨id, asks, rfl⟩ | ⟨opens, e, failed, -⟩
  · rw [asks] at answered
    obtain ⟨r, reports⟩ := answered
    refine ⟨id, r, asks, reports, ?_⟩
    rw [Exchange.reply, read, asks]
    exact replyOf_eq_ok.mpr reports
  · -- a correct reply to a request to connect grants a connection id
    rw [opens] at answered
    obtain ⟨id, grants⟩ := answered
    rw [Exchange.connection, read, opens] at failed
    cases (connectionOf_eq_ok.mpr grants).symm.trans failed

namespace Client

/-- Calls can be made in two goes. -/
lemma history_append (earlier later : List Call) (c : Client) :
    c.history tracker policy remote (earlier ++ later) =
      c.history tracker policy remote earlier ++
        (c.run tracker policy remote earlier).history tracker policy remote later := by
  induction earlier generalizing c with
  | nil => rfl
  | cons k earlier ih =>
    rw [List.cons_append, history, ih, history, List.append_assoc]
    rfl

/-- Let a tracker answer every copy of a packet with a correct reply, and the replies to the copies of
one exchange arrive in its last attempt. A call answers the reply to its own announce if no exchange
before that one, in this call or an earlier one, sent its packet again. If one did, transaction ids
differ, and replies arrive in the order of the exchanges, the call fails: it reads a reply to an earlier
exchange. -/
theorem announce_surplus (tracker : String) (policy : Policy) (remote : Remote)
    (calls : List Call)
    (answers : AnswersEach policy remote [] (fresh.history tracker policy remote calls)) :
    ∀ earlier k later, calls = earlier ++ k :: later →
      let c := fresh.run tracker policy remote earlier
      let made := fresh.history tracker policy remote earlier
      ∃ init x, c.exchanges tracker policy remote k = init ++ [x] ∧
        ((∀ y ∈ made ++ init, y.packets.length = 1) →
          ∃ id moment d r, x.request = k.announcing id ∧
            ⟨moment, .datagram d⟩ ∈ remote.brings ((made ++ init).flatMap (·.sent)) x.sent ∧
            Reports policy.strictCount k.draw.announcing d r ∧
            c.answer tracker policy remote k = .ok r) ∧
        ((∃ y ∈ made ++ init, y.packets.length ≠ 1) →
          ((made ++ init ++ [x]).map (·.request.transaction)).Nodup →
            InOrder remote [] (made ++ init ++ [x]) →
              ∃ y ∈ made ++ init, c.answer tracker policy remote k =
                .error (.transactionMismatch x.request.transaction y.request.transaction)) := by
  rintro earlier k later rfl c made
  have course : Course policy k c (c.exchanges tracker policy remote k)
    (c.answer tracker policy remote k) _ := c.course k
  obtain ⟨init, x, eq, -⟩ := course.last
  rw [eq] at course
  refine ⟨init, x, eq, ?_⟩
  -- the exchanges up to the last one of this call leave a backlog, and the last one reads from it
  have row := (history_inRow earlier fresh).append (c.exchanges_inRow k)
  rw [eq, ← List.append_assoc] at row
  obtain ⟨s, first, second⟩ := row.split
  rw [history_append, history, eq, ← List.append_assoc, ← List.append_assoc] at answers
  obtain ⟨before, now⟩ := answers.split.1.split
  have backlog : Backlog policy remote (made ++ init) s.queue := first.backlog before rfl .fresh
  have sent : s.sent = (made ++ init).flatMap (·.sent) := first.sent
  obtain _ | ⟨answered, -⟩ := now
  rw [List.nil_append, ← sent] at answered
  obtain ⟨-, taken, next, outcome⟩ := second.takes answered
  constructor
  · intro single
    obtain ⟨brought, d, arrives, correct⟩ :=
      Backlog.own (backlog.empty_iff.mpr single) answered next
    rw [arrives] at outcome
    obtain ⟨id, r, asks, reports, ok⟩ := course.answered outcome correct
    refine ⟨id, taken.moment, d, r, asks, ?_, reports, ok⟩
    rw [← sent, ← arrives]
    exact brought
  · rintro ⟨z, mem, again⟩ distinct order
    rw [sent] at next
    obtain ⟨d, arrives, y, mem, correct⟩ :=
      backlog.surplus (fun none => again (backlog.empty_iff.mp none z mem)) order next
    rw [arrives] at outcome
    refine ⟨y, mem, ?_⟩
    have other : y.request.transaction ≠ x.request.transaction := by
      rw [List.map_append, List.nodup_append] at distinct
      exact distinct.2.2 _ (List.mem_map_of_mem mem) _ (by simp)
    rw [← correct.transaction] at other ⊢
    exact course.mismatch (by simp) outcome correct.long other

/-- The reply to the first announce takes longer than the wait for it, so that the announce is sent
again. The first call still answers that reply, and the second call reads the surplus one. -/
theorem announce_surplus_second_call :
    let granted : Bytes := [0, 0, 0, 0, 0, 0, 0, 7, 0, 0, 0, 0, 0, 0, 0, 42]
    let replied (t : UInt8) : Bytes :=
      [0, 0, 0, 1, 0, 0, 0, t, 0, 0, 7, 8, 0, 0, 0, 0, 0, 0, 0, 1, 127, 0, 0, 1, 26, 225]
    let remote : Remote := fun sent =>
      .ok (if sent.length = 1 then [⟨10 ^ 9, .datagram granted⟩]
        else if sent.length = 2 then [⟨6 * 10 ^ 9, .datagram (replied 8)⟩]
        else if sent.length = 3 then [⟨2 * 10 ^ 9, .datagram (replied 8)⟩]
        else [⟨10 ^ 9, .datagram (replied 11)⟩])
    let policy : Policy := ⟨.ofSecs 5, 1, true⟩
    let first : Call := ⟨⟨0, 0, 7, 8, 9⟩, .start .zero .zero 6881 1⟩
    let second : Call := ⟨⟨2 * 10 ^ 9, 0, 10, 11, 12⟩, .start .zero .zero 6881 1⟩
    let c := fresh.run "tracker" policy remote [first]
    AnswersEach policy remote [] (fresh.history "tracker" policy remote [first, second]) ∧
      (∃ d r, Reports true 8 d r ∧ fresh.answer "tracker" policy remote first = .ok r) ∧
      ∃ t, c.answer "tracker" policy remote second = .error (.transactionMismatch 11 t) := by
  intro granted replied remote policy first second c
  let connecting : Exchange := ⟨.connect 7, [⟨0, connectRequest 7⟩], .ok granted⟩
  let announcing : Exchange := ⟨.announce 42 8 9 first.content,
    [⟨10 ^ 9, announceRequest 42 8 9 first.content⟩,
      ⟨6 * 10 ^ 9, announceRequest 42 8 9 first.content⟩], .ok (replied 8)⟩
  let again : Exchange := ⟨.announce 42 11 12 second.content,
    [⟨9 * 10 ^ 9, announceRequest 42 11 12 second.content⟩], .ok (replied 8)⟩
  have now : fresh.exchanges "tracker" policy remote first = [connecting] ++ [announcing] := by
    decide +kernel
  have next : c.exchanges "tracker" policy remote second = [] ++ [again] := by decide +kernel
  have before : fresh.history "tracker" policy remote [first] = [connecting, announcing] := by
    decide +kernel
  have answers : AnswersEach policy remote []
      (fresh.history "tracker" policy remote [first, second]) := by
    have made : fresh.history "tracker" policy remote [first, second] =
      [connecting, announcing, again] := by decide +kernel
    have connects : connecting.request.AnsweredBy true granted :=
      ⟨42, by decide, by decide +kernel, by decide +kernel, by decide +kernel⟩
    have reports : announcing.request.AnsweredBy true (replied 8) :=
      ⟨⟨1800, 0, 1, [⟨⟨127, 0, 0, 1⟩, 6881⟩]⟩, replyOf_eq_ok.mp (by decide +kernel)⟩
    have reports' : again.request.AnsweredBy true (replied 11) :=
      ⟨⟨1800, 0, 1, [⟨⟨127, 0, 0, 1⟩, 6881⟩]⟩, replyOf_eq_ok.mp (by decide +kernel)⟩
    rw [made]
    refine .cons ⟨by decide +kernel, ?_, by decide +kernel⟩
      (.cons ⟨by decide +kernel, ?_, by decide +kernel⟩
        (.cons ⟨by decide +kernel, ?_, by decide +kernel⟩ .nil))
    · exact List.forall_mem_singleton.mpr ⟨granted, rfl, connects⟩
    · exact List.forall_mem_cons.mpr ⟨⟨replied 8, rfl, reports⟩,
        List.forall_mem_singleton.mpr ⟨replied 8, rfl, reports⟩⟩
    · exact List.forall_mem_singleton.mpr ⟨replied 11, rfl, reports'⟩
  have each := announce_surplus "tracker" policy remote [first, second] answers
  refine ⟨answers, ?_, ?_⟩
  · obtain ⟨init, x, eq, own, -⟩ := each [] first [second] rfl
    obtain ⟨rfl, -⟩ := List.append_inj' (now.symm.trans eq) rfl
    obtain ⟨-, -, d, r, -, -, reports, ok⟩ := own (List.forall_mem_singleton.mpr rfl)
    exact ⟨d, r, reports, ok⟩
  · obtain ⟨init, x, eq, -, surplus⟩ := each [first] second [] rfl
    obtain ⟨rfl, same⟩ := List.append_inj' (next.symm.trans eq) rfl
    obtain rfl := List.singleton_inj.mp same
    rw [before] at surplus
    have order : InOrder remote [] ([connecting, announcing] ++ [] ++ [again]) :=
      .cons (by decide +kernel) (.cons (by decide +kernel) (.cons (by decide +kernel) .nil))
    have resent : ∃ y ∈ [connecting, announcing] ++ [], y.packets.length ≠ 1 :=
      ⟨announcing, by simp, by decide⟩
    have distinct : (List.map (fun x : Exchange => x.request.transaction)
      ([connecting, announcing] ++ [] ++ [again])).Nodup := by decide +kernel
    obtain ⟨y, -, failed⟩ := surplus resent distinct order
    exact ⟨_, failed⟩

/-- The reply to a request to connect takes longer than the wait for it, so that the request is sent
again. The announce after it reads the reply to the second copy, which is none to the announce. -/
theorem announce_surplus_connect :
    let granted : Bytes := [0, 0, 0, 0, 0, 0, 0, 7, 0, 0, 0, 0, 0, 0, 0, 42]
    let replied : Bytes :=
      [0, 0, 0, 1, 0, 0, 0, 8, 0, 0, 7, 8, 0, 0, 0, 0, 0, 0, 0, 1, 127, 0, 0, 1, 26, 225]
    let remote : Remote := fun sent =>
      .ok (if sent.length = 1 then [⟨6 * 10 ^ 9, .datagram granted⟩]
        else if sent.length = 2 then [⟨15 * 10 ^ 8, .datagram granted⟩]
        else [⟨10 ^ 9, .datagram replied⟩])
    let policy : Policy := ⟨.ofSecs 5, 1, true⟩
    let k : Call := ⟨⟨0, 0, 7, 8, 9⟩, .start .zero .zero 6881 1⟩
    AnswersEach policy remote [] (fresh.history "tracker" policy remote [k]) ∧
      ((fresh.history "tracker" policy remote [k]).map (·.request.transaction)).Nodup ∧
      (fresh.history "tracker" policy remote [k]).map (·.outcome) = [.ok granted, .ok granted] ∧
      replyOf granted 8 policy.strictCount = .error (.transactionMismatch 8 7) ∧
      fresh.answer "tracker" policy remote k = .error (.transactionMismatch 8 7) := by
  intro granted replied remote policy k
  have made : fresh.history "tracker" policy remote [k] =
      [⟨.connect 7, [⟨0, connectRequest 7⟩, ⟨5 * 10 ^ 9, connectRequest 7⟩], .ok granted⟩,
        ⟨.announce 42 8 9 k.content, [⟨6 * 10 ^ 9, announceRequest 42 8 9 k.content⟩],
          .ok granted⟩] := by
    decide +kernel
  have connects : (Request.connect 7).AnsweredBy true granted :=
    ⟨42, by decide, by decide +kernel, by decide +kernel, by decide +kernel⟩
  have reports : Reports true 8 replied ⟨1800, 0, 1, [⟨⟨127, 0, 0, 1⟩, 6881⟩]⟩ :=
    replyOf_eq_ok.mp (by decide +kernel)
  rw [made]
  refine ⟨.cons ⟨by decide +kernel, ?_, by decide +kernel⟩
    (.cons ⟨by decide +kernel, ?_, by decide +kernel⟩ .nil), by decide +kernel, rfl,
    by decide +kernel, by decide +kernel⟩
  · exact List.forall_mem_cons.mpr ⟨⟨granted, rfl, connects⟩,
      List.forall_mem_singleton.mpr ⟨granted, rfl, connects⟩⟩
  · exact List.forall_mem_singleton.mpr ⟨replied, rfl, _, reports⟩

end Client

end Swarm.Tracker.Udp
