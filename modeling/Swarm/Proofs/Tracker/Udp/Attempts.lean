import Mathlib.Tactic.Ring
import Swarm.Tracker.Udp.Exchange

/-!
# The attempts of an exchange

An exchange sends copies of its packet until something is available: left over from before, or arrived
after one of the copies. It takes the first of this, in the wait of the attempt by whose end it is there,
and fails after the last wait if there is nothing, or at a copy that cannot be sent. The waits are exact
multiples of the first one and become no shorter, so the error tells the longest.
-/

namespace Swarm.Time.Duration

/-- The duration is another one a number of times, the nanoseconds carried to the seconds; it is the
longest duration where the seconds do not fit in 64 bits. -/
structure Multiple (d : Duration) (k : Nat) (e : Duration) : Prop where
  carried : d.secs * k + d.subsec * k / 10 ^ 9 < 2 ^ 64 →
    e.secs = d.secs * k + d.subsec * k / 10 ^ 9 ∧ e.subsec = d.subsec * k % 10 ^ 9
  longest : 2 ^ 64 ≤ d.secs * k + d.subsec * k / 10 ^ 9 →
    e.secs = 2 ^ 64 - 1 ∧ e.subsec = 10 ^ 9 - 1

/-- A multiple is exact in nanoseconds, up to the longest duration. -/
lemma nanos_times (d : Duration) (k : Nat) : (d.times k).nanos = min (d.nanos * k) maxNanos := rfl

/-- The seconds are the whole billions of nanoseconds. -/
lemma secs_eq (d : Duration) : d.secs = d.nanos / 10 ^ 9 := rfl

/-- The nanoseconds beside the seconds are less than a billion. -/
lemma subsec_eq (d : Duration) : d.subsec = d.nanos % 10 ^ 9 := rfl

/-- A product is carried from the nanoseconds to the seconds. -/
lemma nanos_mul (d : Duration) (k : Nat) :
    d.nanos * k = (d.secs * k + d.subsec * k / 10 ^ 9) * 10 ^ 9 + d.subsec * k % 10 ^ 9 := by
  have parts : d.nanos = d.secs * 10 ^ 9 + d.subsec := by
    rw [secs_eq, subsec_eq]
    omega
  calc d.nanos * k = d.secs * k * 10 ^ 9 + d.subsec * k := by rw [parts]; ring
    _ = _ := by omega

/-- A duration that is taken a number of times is that multiple. -/
lemma times_multiple (d : Duration) (k : Nat) : d.Multiple k (d.times k) := by
  have small : d.subsec * k % 10 ^ 9 < 10 ^ 9 := Nat.mod_lt _ (by decide)
  have most : maxNanos = 2 ^ 64 * 10 ^ 9 - 1 := rfl
  have nanos := d.nanos_times k
  rw [nanos_mul, most] at nanos
  constructor
  · intro fits
    rw [secs_eq (d.times k), subsec_eq (d.times k)]
    omega
  · intro excess
    rw [secs_eq (d.times k), subsec_eq (d.times k)]
    omega

/-- More times a duration are no shorter. -/
lemma times_mono (d : Duration) {k k' : Nat} (h : k ≤ k') : (d.times k).nanos ≤ (d.times k').nanos := by
  rw [nanos_times, nanos_times]
  exact min_le_min_right _ (Nat.mul_le_mul_left _ h)

end Swarm.Time.Duration

namespace Swarm.Tracker.Udp

open Swarm.Net (Fault)
open Swarm.Time (Duration Timed Timeline)

namespace Policy

variable {p : Policy} {m n : Nat}

/-- A wait is a power of two times the first one. -/
lemma wait_eq (p : Policy) (n : Nat) : p.wait n = p.timeout.times (2 ^ min n 8) := by
  rw [wait, Nat.one_shiftLeft]

/-- Later waits are no shorter. -/
lemma wait_mono (p : Policy) (h : m ≤ n) : (p.wait m).nanos ≤ (p.wait n).nanos := by
  rw [wait_eq, wait_eq]
  exact p.timeout.times_mono (Nat.pow_le_pow_right (by decide) (min_le_min_right 8 h))

/-- The nanoseconds from the first copy to a later one: the waits after those before it. -/
def passed (p : Policy) (n : Nat) : Nat :=
  ((List.range n).map fun k => (p.wait k).nanos).sum

/-- One more wait passes. -/
lemma passed_succ (p : Policy) (n : Nat) : p.passed (n + 1) = p.passed n + (p.wait n).nanos := by
  rw [passed, passed, List.range_succ, List.map_append, List.sum_append, List.map_singleton,
    List.sum_singleton]

end Policy

/-- What the last packet brings: what arrives because of it, or at once the fault for which it cannot be
sent. -/
def Remote.arrivals (remote : Remote) (sent : List (Timed Bytes)) : List (Timed Arrival) :=
  match remote sent with
  | .ok arrivals => arrivals
  | .error f => [⟨0, .fault f⟩]

/-- What some packets bring that are sent after some others, each thing with its moment. -/
def Remote.brings (remote : Remote) : (earlier sent : List (Timed Bytes)) → List (Timed Arrival)
  | _, [] => []
  | earlier, p :: rest =>
    (remote.arrivals (earlier ++ [p])).map (·.later p.moment) ++ brings remote (earlier ++ [p]) rest

/-- Packets that are sent in two goes bring what each part of them brings. -/
lemma Remote.brings_append (remote : Remote) (earlier xs ys : List (Timed Bytes)) :
    remote.brings earlier (xs ++ ys) =
      remote.brings earlier xs ++ remote.brings (earlier ++ xs) ys := by
  induction xs generalizing earlier with
  | nil => rw [List.append_nil, brings, List.nil_append, List.nil_append]
  | cons x xs ih =>
    rw [List.cons_append, brings, brings, ih, ← List.append_cons, List.append_assoc]

namespace Socket

/-- The copies of a packet that go out if nothing arrives, each at the end of the wait before it. -/
def copies (policy : Policy) (packet : Bytes) (s : Socket) (n : Nat) : List (Timed Bytes) :=
  (List.range n).map fun k => ⟨s.now + policy.passed k, packet⟩

/-- What was queued before and what arrives because of so many copies, in the order of time. -/
def coming (policy : Policy) (remote : Remote) (packet : Bytes) (s : Socket) (n : Nat) :
    Timeline Arrival :=
  s.queue.addAll (remote.brings s.sent (s.copies policy packet n))

/-- The socket after so many copies and waits in vain. -/
def waited (policy : Policy) (remote : Remote) (packet : Bytes) (s : Socket) (n : Nat) : Socket :=
  ⟨s.now + policy.passed n, s.coming policy remote packet n, s.sent ++ s.copies policy packet n⟩

/-- The wait after a copy with a number, counted from zero, is in vain: whatever comes, comes later. -/
def Vain (policy : Policy) (remote : Remote) (packet : Bytes) (s : Socket) (n : Nat) : Prop :=
  ∀ x ∈ (s.coming policy remote packet (n + 1)).events, s.now + policy.passed (n + 1) < x.moment

instance (policy : Policy) (remote : Remote) (packet : Bytes) (s : Socket) (n : Nat) :
    Decidable (s.Vain policy remote packet n) :=
  inferInstanceAs (Decidable (∀ x ∈ (s.coming policy remote packet (n + 1)).events, _))

/-- How attempts end after the copy with a number, and the socket after them: this copy cannot be sent,
or what comes first is there by the end of the wait. -/
inductive Ends (policy : Policy) (remote : Remote) (packet : Bytes) (s : Socket) (n : Nat) :
    Arrival → Socket → Prop where
  | refused {f} (refuses : remote (s.sent ++ s.copies policy packet (n + 1)) = .error f) :
    Ends policy remote packet s n (.fault f) ⟨s.now + policy.passed n,
      s.coming policy remote packet n, s.sent ++ s.copies policy packet (n + 1)⟩
  | taken {first queue}
      (next : (s.coming policy remote packet (n + 1)).first? = some (first, queue))
      (early : first.moment ≤ s.now + policy.passed (n + 1)) :
    Ends policy remote packet s n first.event ⟨max (s.now + policy.passed n) first.moment, queue,
      s.sent ++ s.copies policy packet (n + 1)⟩

variable {policy : Policy} {remote : Remote} {packet : Bytes} {s : Socket} {n : Nat}

/-- One more copy goes out after the waits of those before it. -/
lemma copies_succ (s : Socket) (n : Nat) :
    s.copies policy packet (n + 1) =
      s.copies policy packet n ++ [⟨s.now + policy.passed n, packet⟩] := by
  rw [copies, copies, List.range_succ, List.map_append, List.map_singleton]

/-- There are as many copies as go out. -/
@[simp] lemma length_copies (s : Socket) (n : Nat) : (s.copies policy packet n).length = n := by
  rw [copies, List.length_map, List.length_range]

/-- One more copy brings what the other side makes of it. -/
lemma coming_succ (s : Socket) (n : Nat) :
    s.coming policy remote packet (n + 1) = (s.coming policy remote packet n).addAll
      ((remote.arrivals (s.sent ++ s.copies policy packet (n + 1))).map
        (·.later (s.now + policy.passed n))) := by
  rw [coming, coming, copies_succ, remote.brings_append, Timeline.addAll_append, ← List.append_assoc]
  simp only [Remote.brings, List.append_nil]

/-- More copies take nothing away. -/
lemma coming_subset (s : Socket) {m n : Nat} (h : m ≤ n) :
    (s.coming policy remote packet m).events ⊆ (s.coming policy remote packet n).events := by
  induction h with
  | refl => exact List.Subset.refl _
  | step _ ih =>
    rw [coming_succ]
    refine fun x mem => (Timeline.addAll_perm ..).mem_iff.mpr ?_
    exact List.mem_append_left _ (ih mem)

/-- Before the first copy, nothing has changed. -/
lemma waited_zero (s : Socket) : s.waited policy remote packet 0 = s := by
  simp [waited, Policy.passed, coming, Remote.brings, copies, Timeline.addAll]

/-- What a copy brings that cannot be sent is the fault. -/
lemma fault_brought {f : Fault}
    (refuses : remote (s.sent ++ s.copies policy packet (n + 1)) = .error f) :
    ⟨s.now + policy.passed n, .fault f⟩ ∈ remote.brings s.sent (s.copies policy packet (n + 1)) := by
  rw [copies_succ, ← List.append_assoc] at refuses
  rw [copies_succ, remote.brings_append, Remote.brings, Remote.arrivals, refuses]
  exact List.mem_append_right _ (List.mem_append_left _ List.mem_cons_self)

/-- The copies bring nothing that does not come. -/
lemma brings_subset (s : Socket) (n : Nat) :
    remote.brings s.sent (s.copies policy packet n) ⊆ (s.coming policy remote packet n).events :=
  fun _ mem => (s.queue.addAll_perm _).mem_iff.mpr (List.mem_append_right _ mem)

/-- After some waits in vain, the next copy is sent. -/
lemma send_waited {arrivals : List (Timed Arrival)}
    (accepts : remote (s.sent ++ s.copies policy packet (n + 1)) = .ok arrivals) :
    (s.waited policy remote packet n).send remote packet =
      (none, ⟨s.now + policy.passed n, s.coming policy remote packet (n + 1),
        s.sent ++ s.copies policy packet (n + 1)⟩) := by
  rw [coming_succ, Remote.arrivals, accepts]
  rw [copies_succ, ← List.append_assoc] at accepts ⊢
  simp only [send, waited, accepts]

/-- After some waits in vain, the next copy may be one that cannot be sent. -/
lemma send_refused {f : Fault}
    (refuses : remote (s.sent ++ s.copies policy packet (n + 1)) = .error f) :
    (s.waited policy remote packet n).send remote packet =
      (some f, ⟨s.now + policy.passed n, s.coming policy remote packet n,
        s.sent ++ s.copies policy packet (n + 1)⟩) := by
  rw [copies_succ, ← List.append_assoc] at refuses ⊢
  simp only [send, waited, refuses]

/-- What is first in the queue is taken if it is there by the end of the wait. -/
lemma receive_first {first : Timed Arrival} {queue : Timeline Arrival} {wait : Duration}
    (next : s.queue.first? = some (first, queue)) (early : first.moment ≤ s.now + wait.nanos) :
    s.receive wait = (some first.event, { s with now := max s.now first.moment, queue }) := by
  rw [receive, next]
  exact if_pos early

/-- A wait for what comes later is in vain. -/
lemma receive_vain {wait : Duration} (late : ∀ x ∈ s.queue.events, s.now + wait.nanos < x.moment) :
    s.receive wait = (none, { s with now := s.now + wait.nanos }) := by
  rw [receive]
  split
  case h_1 first queue next =>
    have last := late first (by rw [Timeline.first?_eq_some.mp next]; exact List.mem_cons_self)
    exact if_neg (Nat.not_le.mpr last)
  case h_2 => rfl

/-- After a wait in vain, the attempts go on as if one more copy had been sent from the start. -/
lemma attempts_vain (left : Nat) (vain : s.Vain policy remote packet n) :
    (s.waited policy remote packet n).attempts policy remote packet n left =
      match left with
      | 0 => (none, s.waited policy remote packet (n + 1))
      | left + 1 =>
        (s.waited policy remote packet (n + 1)).attempts policy remote packet (n + 1) left := by
  have ends : s.now + policy.passed n + (policy.wait n).nanos = s.now + policy.passed (n + 1) := by
    rw [policy.passed_succ, Nat.add_assoc]
  rw [attempts]
  cases outcome : remote (s.sent ++ s.copies policy packet (n + 1)) with
  | error f =>
    -- its fault would be there before the end of the wait
    have late := vain _ (s.brings_subset _ (fault_brought outcome))
    rw [← ends] at late
    exact absurd late (Nat.not_lt.mpr (Nat.le_add_right ..))
  | ok arrivals =>
    simp only [send_waited outcome]
    rw [receive_vain (by rw [ends]; exact vain), ends]
    cases left <;> rfl

/-- An attempt whose wait is not in vain is the last. -/
lemma attempts_ends (left : Nat) (taken : ¬ s.Vain policy remote packet n) :
    ∃ first s', s.Ends policy remote packet n first s' ∧
      (s.waited policy remote packet n).attempts policy remote packet n left = (some first, s') := by
  rw [attempts]
  cases outcome : remote (s.sent ++ s.copies policy packet (n + 1)) with
  | error f =>
    rw [send_refused outcome]
    exact ⟨.fault f, _, .refused outcome, rfl⟩
  | ok arrivals =>
    obtain ⟨x, mem, early⟩ : ∃ x ∈ (s.coming policy remote packet (n + 1)).events,
        x.moment ≤ s.now + policy.passed (n + 1) := by
      simpa only [Vain, not_forall, not_lt, exists_prop] using taken
    cases next : (s.coming policy remote packet (n + 1)).first? with
    | none =>
      rw [Timeline.first?_eq_none.mp next] at mem
      cases mem
    | some taken =>
      obtain ⟨first, queue⟩ := taken
      -- nothing comes before what is first, so that is there by the end of the wait as well
      have early := (Timeline.least (Timeline.first?_eq_some.mp next) mem).trans early
      refine ⟨first.event, _, .taken next early, ?_⟩
      rw [policy.passed_succ, ← Nat.add_assoc] at early
      simp only [send_waited outcome]
      rw [receive_first next early]

/-- Attempts send a copy at the start of each wait, up to the one in which they end. -/
lemma Ends.sent {first : Arrival} {s' : Socket} (h : s.Ends policy remote packet n first s') :
    s'.sent = s.sent ++ s.copies policy packet (n + 1) := by
  cases h with
  | refused => rfl
  | taken => rfl

/-- From some attempt on, after all before it were in vain, the attempts end at the first one that is
not in vain, or in vain after all copies. -/
theorem attempts_cases (policy : Policy) (remote : Remote) (packet : Bytes) (s : Socket)
    (n left : Nat) :
    (∃ a ≥ n, a ≤ n + left ∧ ∃ first s', (∀ k ≥ n, k < a → s.Vain policy remote packet k) ∧
      s.Ends policy remote packet a first s' ∧
      (s.waited policy remote packet n).attempts policy remote packet n left = (some first, s')) ∨
    ((∀ k ≥ n, k ≤ n + left → s.Vain policy remote packet k) ∧
      (s.waited policy remote packet n).attempts policy remote packet n left =
        (none, s.waited policy remote packet (n + left + 1))) := by
  -- the first attempt of those that are left ends the exchange, or it is in vain
  by_cases vain : s.Vain policy remote packet n
  case neg =>
    obtain ⟨first, s', ends, outcome⟩ := attempts_ends left vain
    have none : ∀ k ≥ n, k < n → s.Vain policy remote packet k := by omega
    exact .inl ⟨n, le_rfl, Nat.le_add_right .., first, s', none, ends, outcome⟩
  case pos =>
    rw [attempts_vain left vain]
    cases left with
    | zero =>
      refine .inr ⟨fun k least most => ?_, rfl⟩
      obtain rfl : k = n := by omega
      exact vain
    | succ left =>
      have first {k : Nat} (least : k ≥ n) : k = n ∨ k ≥ n + 1 := by omega
      rw [show n + (left + 1) = n + 1 + left by omega]
      obtain ⟨a, least, most, x, s', before, outcome⟩ | ⟨never, outcome⟩ :=
        attempts_cases policy remote packet s (n + 1) left
      · refine .inl ⟨a, by omega, most, x, s', fun k least below => ?_, outcome⟩
        rcases first least with rfl | later
        · exact vain
        · exact before k later below
      · refine .inr ⟨fun k least most => ?_, outcome⟩
        rcases first least with rfl | later
        · exact vain
        · exact never k later most

end Socket

/-- An exchange ends in the first wait that is not in vain, or with a timeout after all waits. -/
theorem exchange_cases (tracker : String) (policy : Policy) (remote : Remote) (packet : Bytes)
    (s : Socket) :
    (∃ a ≤ policy.retries, ∃ first s', (∀ n < a, s.Vain policy remote packet n) ∧
      s.Ends policy remote packet a first s' ∧
      exchange tracker policy remote packet s = (first.outcome tracker, s')) ∨
    ((∀ n ≤ policy.retries, s.Vain policy remote packet n) ∧
      exchange tracker policy remote packet s =
        (.error (.timeout tracker (policy.wait policy.retries)),
          s.waited policy remote packet (policy.retries + 1))) := by
  have outcomes := Socket.attempts_cases policy remote packet s 0 policy.retries
  rw [Socket.waited_zero, Nat.zero_add] at outcomes
  rw [exchange]
  obtain ⟨a, -, last, first, s', before, ends, outcome⟩ | ⟨never, outcome⟩ := outcomes
  · rw [outcome]
    exact .inl ⟨a, last, first, s', fun n => before n n.zero_le, ends, rfl⟩
  · rw [outcome]
    exact .inr ⟨fun n => never n n.zero_le, rfl⟩

/-- Where no socket error happens, an exchange takes the first datagram that is available. Each wait
before that attempt ends before anything comes, so that a copy has gone out at the start of each
wait up to this one, in which the datagram is there already or arrives. If this never happens, the
exchange times out at the end of the last wait, after the copies of all attempts. What comes, in the
order of time, is what was queued before and what the copies so far bring. The waits are exact
multiples of the first one and never become shorter, and the error tells the last, the longest one.
-/
theorem exchange_first_available (tracker : String) (policy : Policy) (remote : Remote) (packet : Bytes)
    (s : Socket) (sound : ∀ x ∈ (s.coming policy remote packet (policy.retries + 1)).events,
      ∀ f, x.event ≠ .fault f) :
    let begins (n : Nat) := s.now + policy.passed n
    let coming (n : Nat) := s.coming policy remote packet (n + 1)
    ((∃ a ≤ policy.retries, ∃ moment d queue,
        (∀ n < a, ∀ x ∈ (coming n).events, begins (n + 1) < x.moment) ∧
        (coming a).first? = some (⟨moment, .datagram d⟩, queue) ∧ moment ≤ begins (a + 1) ∧
        exchange tracker policy remote packet s =
          (.ok d, ⟨max (begins a) moment, queue, s.sent ++ s.copies policy packet (a + 1)⟩)) ∨
      ((∀ n ≤ policy.retries, ∀ x ∈ (coming n).events, begins (n + 1) < x.moment) ∧
        exchange tracker policy remote packet s =
          (.error (.timeout tracker (policy.wait policy.retries)),
            ⟨begins (policy.retries + 1), coming policy.retries,
              s.sent ++ s.copies policy packet (policy.retries + 1)⟩))) ∧
    (∀ n, (coming n).events.Perm
      (s.queue.events ++ remote.brings s.sent (s.copies policy packet (n + 1)))) ∧
    (∀ n, begins (n + 1) = begins n + (policy.wait n).nanos) ∧
    (∀ n, policy.timeout.Multiple (2 ^ min n 8) (policy.wait n)) ∧
    ∀ m n, m ≤ n → (policy.wait m).nanos ≤ (policy.wait n).nanos := by
  intro begins coming
  refine ⟨?_, fun n => s.queue.addAll_perm _, fun n => ?_, fun n => ?_, fun m n => policy.wait_mono⟩
  · obtain ⟨a, last, first, s', before, ends, outcome⟩ | timed :=
      exchange_cases tracker policy remote packet s
    · -- a fault in what comes is ruled out, also one for which a copy cannot be sent
      have faultless {moment : Nat} {f : Fault} (inside : ⟨moment, .fault f⟩ ∈ (coming a).events) :
          False :=
        sound _ (s.coming_subset (Nat.succ_le_succ last) inside) f rfl
      cases ends with
      | refused refuses => exact (faultless (s.brings_subset _ (Socket.fault_brought refuses))).elim
      | @taken first queue next early =>
        obtain ⟨moment, d | f⟩ := first
        · exact .inl ⟨a, last, moment, d, queue, before, next, early, outcome⟩
        · have inside : ⟨moment, .fault f⟩ ∈ (coming a).events := by
            rw [Timeline.first?_eq_some.mp next]
            exact List.mem_cons_self
          exact (faultless inside).elim
    · exact .inr timed
  · simp only [begins, policy.passed_succ, Nat.add_assoc]
  · rw [policy.wait_eq]
    exact Duration.times_multiple ..

/-- The reply to the first copy takes twenty seconds and would come in the second wait, which begins
after fifteen. The reply to the second copy overtakes it. -/
theorem exchange_first_available_overtaking :
    let policy : Policy := ⟨.ofSecs 15, 2, true⟩
    let remote : Remote := fun sent =>
      .ok (if sent.length = 1 then [⟨20 * 10 ^ 9, .datagram [1]⟩] else [⟨10 ^ 9, .datagram [2]⟩])
    let coming := Socket.fresh.coming policy remote [7]
    (∀ x ∈ (coming 3).events, ∀ f, x.event ≠ .fault f) ∧
      exchange "tracker" policy remote [7] .fresh =
        (.ok [2], ⟨16 * 10 ^ 9, ⟨[⟨20 * 10 ^ 9, .datagram [1]⟩], by decide⟩,
          [⟨0, [7]⟩, ⟨15 * 10 ^ 9, [7]⟩]⟩) := by
  intro policy remote coming
  have all : (coming 3).events = [⟨16 * 10 ^ 9, .datagram [2]⟩, ⟨20 * 10 ^ 9, .datagram [1]⟩,
      ⟨46 * 10 ^ 9, .datagram [2]⟩] := by decide +kernel
  have sound : ∀ x ∈ (coming 3).events, ∀ f, x.event ≠ .fault f := by
    simp [all]
  refine ⟨sound, ?_⟩
  obtain ⟨outcome, -⟩ := exchange_first_available "tracker" policy remote [7] .fresh sound
  have vain : Socket.fresh.Vain policy remote [7] 0 := by decide +kernel
  have taken : ¬ Socket.fresh.Vain policy remote [7] 1 := by decide +kernel
  obtain ⟨a, -, moment, d, queue, before, here, early, outcome⟩ | ⟨never, -⟩ := outcome
  · obtain first | rfl | third : a < 1 ∨ a = 1 ∨ 1 < a := Nat.lt_trichotomy a 1
    · obtain rfl := Nat.lt_one_iff.mp first
      have inside : ⟨moment, .datagram d⟩ ∈ (coming 1).events := by
        rw [Timeline.first?_eq_some.mp here]
        exact List.mem_cons_self
      exact absurd early (Nat.not_le.mpr (vain _ inside))
    · have next : (coming 2).first? = some (⟨16 * 10 ^ 9, .datagram [2]⟩,
          ⟨[⟨20 * 10 ^ 9, .datagram [1]⟩], by decide⟩) := by decide +kernel
      cases next.symm.trans here
      rw [outcome]
      decide +kernel
    · exact absurd (before 1 third) taken
  · exact absurd (never 1 (by decide)) taken

end Swarm.Tracker.Udp
