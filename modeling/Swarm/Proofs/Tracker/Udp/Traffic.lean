import Swarm.Proofs.Tracker.Udp.History

/-!
# The traffic of a client

A client whose connection ids are all still good when it needs them talks to its tracker in two
parts: requests to connect until one is granted, and from then on announces under that connection
id. Whatever arrives or does not arrive, nothing else is ever sent, a request to connect in vain
leaves no connection id behind, and an announce in vain takes none away.
-/

namespace Swarm.Tracker.Udp

open Swarm.Time (Timed)

/-- A packet that requests to connect. -/
def IsConnect (p : Bytes) : Prop :=
  p.length = 16 ∧ ∃ t, p = connectRequest t ∧ (p.drop 12).take 4 = Bytes.word 4 t.toNat

/-- A packet that announces under a connection id. -/
def IsAnnounce (id : UInt64) (p : Bytes) : Prop :=
  p.length = 98 ∧ p.take 8 = Bytes.word 8 id.toNat ∧
    ∃ t key content, p = announceRequest id t key content ∧
      (p.drop 12).take 4 = Bytes.word 4 t.toNat

namespace Exchange

/-- A request to connect that yields no connection id, for whatever reason. -/
def Vain (x : Exchange) : Prop := (∃ t, x.request = .connect t) ∧ ∀ id, ¬ x.Yields id

/-- An announce under a connection id. -/
def Under (id : UInt64) (x : Exchange) : Prop :=
  ∃ t key content, x.request = .announce id t key content

end Exchange

/-- A call begins less than sixty seconds after the connection id at hand, if any, was issued. -/
def Prompt (k : Call) (c : Client) : Prop :=
  ∀ held ∈ c.connection, c.socket.now + k.draw.idle - held.issued < 60 * 10 ^ 9

instance (k : Call) (c : Client) : Decidable (Prompt k c) :=
  inferInstanceAs (Decidable (∀ held ∈ c.connection, _))

/-- All calls in a row are prompt. -/
def AllPrompt (tracker : String) (policy : Policy) (remote : Remote) : List Call → Client → Prop
  | [], _ => True
  | k :: calls, c =>
    Prompt k c ∧ AllPrompt tracker policy remote calls (c.after tracker policy remote k)

instance decidableAllPrompt (tracker : String) (policy : Policy) (remote : Remote) :
    (calls : List Call) → (c : Client) → Decidable (AllPrompt tracker policy remote calls c)
  | [], _ => isTrue trivial
  | k :: calls, c =>
    have := decidableAllPrompt tracker policy remote calls (c.after tracker policy remote k)
    inferInstanceAs (Decidable (Prompt k c ∧ _))

/-- The exchanges of a client that holds this connection id now: none but vain requests to connect
before it was granted, and none but announces under it after that. -/
inductive Orderly : List Exchange → Option Connection → Prop where
  | waiting {made} (vain : ∀ x ∈ made, x.Vain) : Orderly made none
  | connected {before x after held} (vain : ∀ y ∈ before, y.Vain) (yields : x.Yields held.id)
      (under : ∀ y ∈ after, y.Under held.id) : Orderly (before ++ x :: after) (some held)

variable {tracker : String} {policy : Policy} {remote : Remote}
variable {k : Call} {c c' : Client} {xs made : List Exchange} {x y : Exchange}
variable {answer : Except Error Reply} {d : Bytes} {p : Timed Bytes} {id : UInt64}

/-! ## Packets -/

/-- Exchanges that request to connect send no other packets. -/
lemma isConnect_of_mem (repeats : ∀ x ∈ xs, x.Repeats)
    (opens : ∀ x ∈ xs, ∃ t, x.request = .connect t) (mem : p ∈ xs.flatMap (·.sent)) :
    IsConnect p.event := by
  obtain ⟨x, mem, sent⟩ := List.mem_flatMap.mp mem
  obtain ⟨t, opens⟩ := opens x mem
  have same := (repeats x mem).only (List.mem_map_of_mem sent)
  rw [opens] at same
  rw [same]
  exact ⟨length_connectRequest, t, rfl, transaction_connectRequest⟩

/-- Exchanges that announce under a connection id send no other packets. -/
lemma isAnnounce_of_mem (repeats : ∀ x ∈ xs, x.Repeats) (under : ∀ x ∈ xs, x.Under id)
    (mem : p ∈ xs.flatMap (·.sent)) : IsAnnounce id p.event := by
  obtain ⟨x, mem, sent⟩ := List.mem_flatMap.mp mem
  obtain ⟨t, key, content, asks⟩ := under x mem
  have same := (repeats x mem).only (List.mem_map_of_mem sent)
  rw [asks] at same
  rw [same]
  exact ⟨length_announceRequest, take_announceRequest, t, key, content, rfl,
    transaction_announceRequest⟩

/-! ## Calls -/

/-- Connection ids live for a minute. -/
lemma connectionLife_nanos : connectionLife.nanos = 60 * 10 ^ 9 := by decide

/-- A prompt call finds a connection id too old only where there is none. -/
lemma Prompt.connection_eq_none (prompt : Prompt k c)
    (stale : (c.pass k.draw.idle).current? = none) : c.connection = none := by
  revert stale
  fun_cases Client.current? (c.pass k.draw.idle) with
  | case1 =>
    intro stale
    cases stale
  | case2 held holds old =>
    have recent := prompt held holds
    rw [connectionLife_nanos] at old
    exact absurd recent old
  | case3 nothing => exact fun _ => nothing

namespace Course

/-- A prompt call keeps the order of exchanges. -/
lemma orderly (h : Course policy k c xs answer c') (prompt : Prompt k c)
    (before : Orderly made c.connection) : Orderly (made ++ xs) c'.connection := by
  cases h with
  | @held id x _ current asks =>
    obtain ⟨held, holds, rfl⟩ := Client.exists_of_current? current
    rw [holds] at before ⊢
    cases before with
    | connected vain yields under =>
      rw [List.append_assoc, List.cons_append]
      have now : x.Under held.id := ⟨_, _, _, asks⟩
      exact .connected vain yields (List.forall_mem_append.mpr ⟨under, by simpa using now⟩)
  | @refused x _ _ stale opens _ failed =>
    -- a connection id that is too old would not be taken away by this
    have none := prompt.connection_eq_none stale
    rw [none] at before ⊢
    cases before with
    | waiting vain =>
      have now : x.Vain := by
        refine ⟨⟨_, opens⟩, ?_⟩
        intro id yields
        rw [Exchange.yields_iff opens, failed] at yields
        cases yields
      exact .waiting (List.forall_mem_append.mpr ⟨vain, by simpa using now⟩)
  | @granted id x y _ _ stale opens _ obtained asks =>
    have none := prompt.connection_eq_none stale
    rw [none] at before
    cases before with
    | waiting vain =>
      have now : y.Under id := ⟨_, _, _, asks⟩
      exact .connected vain ((Exchange.yields_iff opens).mpr obtained) (by simpa using now)

/-- A request to connect in vain ends the call with an error and leaves no connection id. -/
lemma gives_up (h : Course policy k c xs answer c') (prompt : Prompt k c) (mem : x ∈ xs)
    (vain : x.Vain) : c'.connection = none ∧ ∃ e, answer = .error e := by
  obtain ⟨⟨t, opens⟩, nothing⟩ := vain
  cases h with
  | held _ asks =>
    rw [List.mem_singleton.mp mem, asks] at opens
    cases opens
  | @refused _ _ e stale => exact ⟨prompt.connection_eq_none stale, e, rfl⟩
  | granted _ opens' _ obtained asks =>
    rw [List.mem_cons, List.mem_singleton] at mem
    rcases mem with rfl | rfl
    · exact absurd ((Exchange.yields_iff opens').mpr obtained) (nothing _)
    · rw [asks] at opens
      cases opens

/-- An announce leaves the connection id in place, whatever comes of it. -/
lemma keeps (h : Course policy k c xs answer c') (prompt : Prompt k c) (mem : x ∈ xs)
    (under : x.Under id) :
    ∃ held, c'.connection = some held ∧ held.id = id ∧
      (c.connection = none ∨ c.connection = some held) := by
  obtain ⟨t, key, content, asks⟩ := under
  cases h with
  | held current asks' =>
    rw [List.mem_singleton.mp mem, asks'] at asks
    cases asks
    obtain ⟨held, holds, same⟩ := Client.exists_of_current? current
    exact ⟨held, holds, same, .inr holds⟩
  | refused _ opens =>
    rw [List.mem_singleton.mp mem, opens] at asks
    cases asks
  | granted stale opens _ _ asks' =>
    rw [List.mem_cons, List.mem_singleton] at mem
    rcases mem with rfl | rfl
    · rw [opens] at asks
      cases asks
    · rw [asks'] at asks
      cases asks
      exact ⟨_, rfl, rfl, .inl (prompt.connection_eq_none stale)⟩

/-- Without a connection id, a call first sends a request to connect. -/
lemma opens (h : Course policy k c xs answer c') (nothing : c.connection = none) :
    ∃ moment rest, c'.socket.sent =
      c.socket.sent ++ ⟨moment, connectRequest k.draw.connecting⟩ :: rest := by
  rw [h.sent]
  cases h with
  | held current =>
    obtain ⟨held, holds, -⟩ := Client.exists_of_current? current
    rw [nothing] at holds
    cases holds
  | @refused x _ _ _ opens takes | @granted _ x _ _ _ _ opens takes =>
    obtain ⟨⟨moment, packet⟩, rest, sent⟩ := List.exists_cons_of_ne_nil takes.repeats.sent_ne_nil
    have first : packet = x.request.packet :=
      takes.repeats.only (by rw [Exchange.packets, sent]; exact List.mem_cons_self)
    rw [List.flatMap_cons, sent, first, opens]
    exact ⟨moment, _, rfl⟩

end Course

/-- Each of calls that are all prompt is. -/
lemma AllPrompt.prompt {earlier later : List Call}
    (h : AllPrompt tracker policy remote (earlier ++ k :: later) c) :
    Prompt k (c.run tracker policy remote earlier) := by
  induction earlier generalizing c with
  | nil => exact h.1
  | cons j earlier ih => exact ih h.2

namespace Client

/-- Prompt calls keep the order of exchanges. -/
theorem run_orderly {calls : List Call} (prompt : AllPrompt tracker policy remote calls c)
    (before : Orderly made c.connection) :
    Orderly (made ++ c.history tracker policy remote calls)
      (c.run tracker policy remote calls).connection := by
  induction calls generalizing made c with
  | nil =>
    rw [history, List.append_nil]
    exact before
  | cons k calls ih =>
    rw [history, ← List.append_assoc]
    exact ih prompt.2 ((c.course k).orderly prompt.1 before)

/-- If every call begins within sixty seconds after the connection id at hand was issued, then
whatever the tracker sends, all that a client sends is requests to connect until one is granted, and
announces under that connection id from then on. A request to connect in vain leaves no connection
id, so that the next call begins with another one; an announce leaves the connection id in place. -/
theorem run_traffic (tracker : String) (policy : Policy) (remote : Remote) (calls : List Call)
    (prompt : AllPrompt tracker policy remote calls fresh) :
    let c := fresh.run tracker policy remote calls
    let made := fresh.history tracker policy remote calls
    ((c.connection = none ∧ (∀ x ∈ made, x.Vain) ∧ ∀ p ∈ c.socket.sent, IsConnect p.event) ∨
      ∃ before x after held, made = before ++ x :: after ∧ (∀ y ∈ before, y.Vain) ∧
        x.Yields held.id ∧ c.connection = some held ∧
        ∃ early late, c.socket.sent = early ++ late ∧
          early = (before ++ [x]).flatMap (·.sent) ∧ (∀ p ∈ early, IsConnect p.event) ∧
          ∀ p ∈ late, IsAnnounce held.id p.event) ∧
      ∀ earlier k later, calls = earlier ++ k :: later →
        let b := fresh.run tracker policy remote earlier
        let a := b.after tracker policy remote k
        ∀ x ∈ b.exchanges tracker policy remote k,
          (x.Vain → a.connection = none ∧ (∃ e, b.answer tracker policy remote k = .error e) ∧
            ∀ next, ∃ moment rest, (a.after tracker policy remote next).socket.sent =
              a.socket.sent ++ ⟨moment, connectRequest next.draw.connecting⟩ :: rest) ∧
          ∀ id, x.Under id → ∃ held, a.connection = some held ∧ held.id = id ∧
            (b.connection = none ∨ b.connection = some held) := by
  intro c made
  have sent : c.socket.sent = made.flatMap (·.sent) := run_sent calls fresh
  have repeats : ∀ x ∈ made, x.Repeats := fun x => history_repeats
  have start : Orderly [] fresh.connection := .waiting (by nofun)
  have orderly : Orderly made c.connection := run_orderly prompt start
  refine ⟨?_, ?_⟩
  · rw [sent]
    generalize c.connection = connection at orderly ⊢
    clear_value made
    cases orderly with
    | waiting vain =>
      exact .inl ⟨rfl, vain, fun p => isConnect_of_mem repeats fun x mem => (vain x mem).1⟩
    | @connected before x after held vain yields under =>
      rw [List.append_cons, List.forall_mem_append] at repeats
      refine .inr ⟨before, x, after, held, rfl, vain, yields, rfl, _, after.flatMap (·.sent),
        ?_, rfl, ?_, ?_⟩
      · rw [List.append_cons, List.flatMap_append]
      · obtain ⟨t, d, opens, -⟩ := yields
        have last : ∃ t, x.request = .connect t := ⟨t, opens⟩
        intro p
        apply isConnect_of_mem repeats.1
        exact List.forall_mem_append.mpr ⟨fun y mem => (vain y mem).1, by simpa using last⟩
      · intro p
        exact isAnnounce_of_mem repeats.2 under
  · rintro earlier k later rfl b a x mem
    have course : Course policy k b _ _ a := b.course k
    have prompt : Prompt k b := prompt.prompt
    refine ⟨?_, fun id under => course.keeps prompt mem under⟩
    intro vain
    obtain ⟨nothing, failed⟩ := course.gives_up prompt mem vain
    exact ⟨nothing, failed, fun next => (a.course next).opens nothing⟩

/-- The first call gets no answer, the second a connection id but no reply to its announce, and the
third begins less than sixty seconds after that. -/
theorem run_traffic_unanswered :
    let granted : Bytes := [0, 0, 0, 0, 0, 0, 0, 10, 0, 0, 0, 0, 0, 0, 0, 42]
    let remote : Remote := fun sent =>
      .ok (if sent.length = 3 then [⟨10 ^ 9, .datagram granted⟩] else [])
    let policy : Policy := ⟨.ofSecs 5, 1, true⟩
    let first : Call := ⟨⟨0, 0, 7, 8, 9⟩, .start .zero .zero 6881 1⟩
    let second : Call := ⟨⟨10 ^ 9, 1, 10, 11, 12⟩, .start .zero .zero 6881 1⟩
    let third : Call := ⟨⟨44 * 10 ^ 9, 0, 13, 14, 15⟩, .start .zero .zero 6881 1⟩
    let calls := [first, second, third]
    AllPrompt "tracker" policy remote calls fresh ∧
      (fresh.run "tracker" policy remote calls).connection = some ⟨42, 17 * 10 ^ 9 + 1⟩ ∧
      (∃ early late, (fresh.run "tracker" policy remote calls).socket.sent = early ++ late ∧
        (∀ p ∈ early, IsConnect p.event) ∧ ∀ p ∈ late, IsAnnounce 42 p.event) ∧
      ∀ next, ∃ moment rest, ((fresh.after "tracker" policy remote first).after "tracker" policy
        remote next).socket.sent = (fresh.after "tracker" policy remote first).socket.sent ++
          ⟨moment, connectRequest next.draw.connecting⟩ :: rest := by
  intro granted remote policy first second third calls
  have prompt : AllPrompt "tracker" policy remote calls fresh := by decide +kernel
  have holds : (fresh.run "tracker" policy remote calls).connection =
      some ⟨42, 17 * 10 ^ 9 + 1⟩ := by decide +kernel
  obtain ⟨traffic, each⟩ := run_traffic "tracker" policy remote calls prompt
  refine ⟨prompt, holds, ?_, ?_⟩
  · rcases traffic with ⟨nothing, -⟩ | ⟨_, _, _, held, -, -, -, holds', early, late, sent, -, traffic⟩
    · cases nothing.symm.trans holds
    · cases holds'.symm.trans holds
      exact ⟨early, late, sent, traffic⟩
  · obtain ⟨x, mem, opens, failed⟩ : ∃ x ∈ fresh.exchanges "tracker" policy remote first,
        x.request = .connect 7 ∧ x.outcome = .error (.timeout "tracker" (.ofSecs 10)) := by
      decide +kernel
    have vain : x.Vain := by
      refine ⟨⟨7, opens⟩, ?_⟩
      rintro id ⟨t, d, -, read, -⟩
      cases failed.symm.trans read
    have step := each [] first [second, third] rfl
    rw [show fresh.run "tracker" policy remote [] = fresh from rfl] at step
    exact ((step x mem).1 vain).2.2

end Client

end Swarm.Tracker.Udp
