import Swarm.Proofs.Peer.Steps
import Swarm.Proofs.Peer.Waiting

/-!
# The life of a session

A session tells twice whether the peer chokes this side: in its state, and in what it keeps of the
last message that chokes or unchokes. The two agree whatever is done with a session that was set up
and whatever its peer sends, until it is given up; and a session that was given up stays so.
-/

namespace Swarm.Peer

open Swarm.Net (Endpoint Ending Link Stream)
open Swarm.Time (Duration)
open Swarm.Wire

/-- What happens to a session: an operation, or that its peer sends more. -/
inductive Event where
  | next
  | send (m : Message)
  | requestBlock (index start : UInt32) (length : Nat) (limit : Duration)
  | requestPiece (index : UInt32) (blockSize : Nat)
  | downloadPiece (config : DownloadConfig) (index : UInt32) (pieceLength : Nat)
  | reject
  | arrival (more : Bytes) (ending : Ending)

/-- The last message that chokes or unchokes. -/
def lastWord (ms : List Message) : Option Message :=
  (ms.filter fun m => m = .choke ∨ m = .unchoke).getLast?

/-- The session agrees with the messages that were read in it. -/
structure Coherent (s : Session) (ms : List Message) : Prop where
  state : s.state = .interestedSent ∨ s.state = .unchoked ∨ s.state = .rejected
  choked : s.choked = true ↔ lastWord ms = some .choke
  unchoked : s.state ≠ .rejected → (s.state = .unchoked ↔ s.choked = false)

/-- The session allows requests after it has read this part of the stream, with an unchoke as the
last message. -/
structure Admitted (x : Stream) (s : Session) : Prop where
  state : s.state = .unchoked
  choked : s.choked = false
  hears : ∃ ms, Hears x (ms ++ [.unchoke]) s.link.incoming

namespace Session

/-- The session after an event, whether it succeeds or not. -/
def after (s : Session) : Event → Session
  | .next => s.next.2
  | .send m =>
    match s.send m with
    | .ok t => t
    | .error _ => s
  | .requestBlock index start length limit => (s.requestBlock index start length limit).2
  | .requestPiece index blockSize => (s.requestPiece index blockSize).2
  | .downloadPiece config index pieceLength => (s.downloadPiece config index pieceLength).2
  | .reject => s.reject
  | .arrival more ending => s.leaving ⟨s.link.incoming.unread ++ more, ending⟩

/-- The session after events in a row. -/
def run (events : List Event) (s : Session) : Session := events.foldl after s

/-- The messages that are read in events in a row. -/
def heardIn : List Event → Session → List Message
  | [], _ => []
  | e :: events, s => heard s.link.incoming (s.after e).link.incoming ++ heardIn events (s.after e)

end Session

variable {s t : Session} {rs : List Reading} {ms : List Message} {m : Message} {x y : Stream}

/-! ## What steps keep -/

/-- The last word of two rows of messages is that of the second, unless it has none. -/
lemma lastWord_append (ms ms' : List Message) :
    lastWord (ms ++ ms') = (lastWord ms').or (lastWord ms) := by
  rw [lastWord, List.filter_append, List.getLast?_append]
  rfl

/-- A message at the end is the last word if it chokes or unchokes. -/
lemma lastWord_concat (ms : List Message) (m : Message) :
    lastWord (ms ++ [m]) = if m = .choke ∨ m = .unchoke then some m else lastWord ms := by
  rw [lastWord_append]
  by_cases word : m = .choke ∨ m = .unchoke
  · simp [word, lastWord]
  · simp [word, lastWord]

/-- A session that learns a message agrees with it as well. -/
lemma Coherent.learn (h : Coherent s ms) (m : Message) : Coherent (s.learn m) (ms ++ [m]) := by
  obtain ⟨state, choked, unchoked⟩ := h
  cases m with
  | choke | unchoke =>
    -- a word moves the session between the two states in which it is alive
    rcases state with state | state | state
    all_goals constructor <;> simp [Session.learn, state, lastWord_concat]
  | _ =>
    refine ⟨state, ?_, unchoked⟩
    rw [lastWord_concat, if_neg (by simp)]
    exact choked

/-- More of the stream may be read before a session is admitted. -/
lemma Admitted.of_hears (h : Hears x ms y) (a : Admitted y s) : Admitted x s := by
  obtain ⟨state, choked, ms', later⟩ := a
  refine ⟨state, choked, ms ++ ms', ?_⟩
  rw [List.append_assoc]
  exact h.trans later

/-- A session that is admitted agrees with the messages up to where it stands. -/
lemma Admitted.coherent (a : Admitted x s) : Coherent s (heard x s.link.incoming) := by
  obtain ⟨state, choked, ms, hears⟩ := a
  rw [hears.heard_eq]
  constructor
  · exact .inr (.inl state)
  · simp [choked, lastWord_concat]
  · simp [state, choked]

/-- A step keeps a session in agreement with its messages. -/
lemma Step.coherent (step : Step s rs t) (h : Coherent s ms) :
    Coherent t (ms ++ rs.flatMap said) := by
  cases step with
  | next =>
    rw [List.flatMap_singleton]
    rcases s.next_cases with ⟨e, rest, -, next⟩ | ⟨m, rest, -, next⟩
    · rw [next, said, List.append_nil]
      exact ⟨h.state, h.choked, h.unchoked⟩
    · rw [next, said]
      have left : Coherent (s.behind (.ok m) rest) ms := ⟨h.state, h.choked, h.unchoked⟩
      exact left.learn m
  | sent b =>
    rw [List.flatMap_nil, List.append_nil]
    exact ⟨h.state, h.choked, h.unchoked⟩
  | rejected =>
    rw [List.flatMap_nil, List.append_nil]
    exact ⟨.inr (.inr rfl), h.choked, fun alive => absurd rfl alive⟩

/-- Steps keep a session in agreement with its messages. -/
theorem Steps.coherent (steps : Steps s rs t) (h : Coherent s ms) :
    Coherent t (ms ++ rs.flatMap said) := by
  induction steps generalizing ms with
  | nil => rwa [List.flatMap_nil, List.append_nil]
  | cons step _ ih =>
    rw [List.flatMap_append, ← List.append_assoc]
    exact ih (step.coherent h)

/-- No step revives a session that was given up. -/
lemma Step.stays_rejected (step : Step s rs t) (h : s.state = .rejected) : t.state = .rejected := by
  cases step with
  | next =>
    rcases s.next_cases with ⟨e, rest, -, next⟩ | ⟨m, rest, -, next⟩
    · rw [next]
      exact h
    · rw [next]
      cases m <;> simp [Session.learn, Session.behind, h]
  | sent => exact h
  | rejected => rfl

/-- No steps revive a session that was given up. -/
theorem Steps.stays_rejected (steps : Steps s rs t) (h : s.state = .rejected) :
    t.state = .rejected := by
  induction steps with
  | nil => exact h
  | cons step _ ih => exact ih (step.stays_rejected h)

/-! ## What events keep -/

namespace Session

/-- An event is steps of the session, unless its peer sends more. -/
lemma after_cases (s : Session) (e : Event) :
    (∃ rs, Steps s rs (s.after e)) ∨ ∃ more ending, e = .arrival more ending := by
  cases e with
  | next => exact .inl ⟨_, next_steps rfl⟩
  | send m =>
    left
    rw [after]
    split
    · rename_i sent
      rw [eq_sending sent]
      exact ⟨_, (Step.sent _).steps⟩
    · exact ⟨_, .nil⟩
  | requestBlock index start length limit =>
    obtain ⟨rs, course⟩ := requestBlock_course index start length limit s
    exact .inl ⟨rs, course.steps⟩
  | requestPiece index blockSize =>
    obtain ⟨rs, course⟩ :=
      requestBlock_course index 0 blockSize DownloadConfig.standard.blockTimeout s
    exact .inl ⟨rs, course.steps⟩
  | downloadPiece config index pieceLength =>
    obtain ⟨rs, course⟩ := downloadPiece_course config index pieceLength s
    exact .inl ⟨rs, course.steps⟩
  | reject => exact .inl ⟨_, Step.rejected.steps⟩
  | arrival more ending => exact .inr ⟨more, ending, rfl⟩

/-- An event keeps a session in agreement with its messages. -/
lemma after_coherent (e : Event) (h : Coherent s ms) :
    Coherent (s.after e) (ms ++ heard s.link.incoming (s.after e).link.incoming) := by
  rcases s.after_cases e with ⟨rs, steps⟩ | ⟨more, ending, rfl⟩
  · rw [steps.hears.heard_eq]
    exact steps.coherent h
  · have silent : heard s.link.incoming (s.after (.arrival more ending)).link.incoming = [] := by
      apply heard_of_le
      simp [after, leaving]
    rw [silent, List.append_nil]
    exact ⟨h.state, h.choked, h.unchoked⟩

/-- Events in a row keep a session in agreement with its messages. -/
theorem run_coherent (events : List Event) (h : Coherent s ms) :
    Coherent (s.run events) (ms ++ heardIn events s) := by
  induction events generalizing s ms with
  | nil => rwa [heardIn, List.append_nil]
  | cons e events ih =>
    rw [heardIn, ← List.append_assoc]
    exact ih (after_coherent e h)

/-- Nothing revives a session that was given up. -/
theorem run_rejected (events : List Event) (h : s.state = .rejected) :
    (s.run events).state = .rejected := by
  induction events generalizing s with
  | nil => exact h
  | cons e events ih =>
    apply ih
    rcases s.after_cases e with ⟨rs, steps⟩ | ⟨more, ending, rfl⟩
    · exact steps.stays_rejected h
    · exact h

/-! ## Setting up -/

/-- A message that was waited for is the last that was read. -/
lemma awaitAny_hears {limit} (h : s.awaitAny limit = (.ok m, t)) :
    (∃ ms, Hears s.link.incoming (ms ++ [m]) t.link.incoming) ∧
      (m = .unchoke → t.choked = false) := by
  obtain ⟨bodies, tail, eq, idle, stop⟩ :=
    exists_frames s.link.incoming.ending Speaks s.link.incoming.unread
  have incoming : s.link.incoming = ⟨framedAll bodies ++ tail, s.link.incoming.ending⟩ := by
    rw [← eq]
  -- the frames before this one carry no message
  rcases stop with ⟨body, rest, fits, speaks, rfl⟩ | ⟨e, rest, broken⟩
  · obtain ⟨m', read, awaited⟩ := awaitAny_speaks limit idle fits speaks incoming
    rw [awaited] at h
    cases h
    refine ⟨?_, ?_⟩
    · obtain ⟨ms, before⟩ := Hears.frames idle (framed body ++ rest) s.link.incoming.ending
      have last := Hears.single ⟨framed body ++ rest, s.link.incoming.ending⟩
      rw [readFrame_framed fits, read] at last
      rw [incoming, hear_link]
      exact ⟨ms, before.trans last⟩
    · rintro rfl
      rw [hear_read read]
      rfl
  · obtain ⟨e', failed⟩ := awaitAny_broken limit idle broken incoming
    rw [failed] at h
    cases h

/-- A wait for the unchoke admits the session when it ends with it. -/
lemma awaitUnchoke_admits {limit fuel} (h : s.awaitUnchoke limit fuel = (.ok (), t)) :
    Admitted s.link.incoming t := by
  revert h
  fun_induction awaitUnchoke limit fuel s with
  | case1 | case3 =>
    intro h
    cases h
  | case2 _ _ _ awaited =>
    obtain ⟨hears, unchoked⟩ := awaitAny_hears awaited
    intro h
    cases h
    exact ⟨rfl, unchoked rfl, hears⟩
  | case4 _ _ _ _ awaited _ _ ih =>
    obtain ⟨⟨ms, hears⟩, -⟩ := awaitAny_hears awaited
    intro h
    exact (ih h).of_hears hears

/-- The unchoke admits the session, whether it is the first message or a later one. -/
lemma declareInterest_admits {limit} (h : s.declareInterest limit = (.ok (), t)) :
    Admitted s.link.incoming t := by
  revert h
  fun_cases declareInterest limit s with
  | case1 | case2 => nofun
  | case3 _ _ sent _ awaited =>
    -- the first message is the unchoke
    obtain ⟨hears, unchoked⟩ := awaitAny_hears awaited
    obtain rfl := eq_sending sent
    rintro ⟨⟩
    exact ⟨rfl, unchoked rfl, hears⟩
  | case4 _ _ awaited _ sent =>
    obtain ⟨⟨ms, hears⟩, -⟩ := awaitAny_hears awaited
    obtain rfl := eq_sending sent
    intro h
    exact (awaitUnchoke_admits h).of_hears hears

/-- Behind a handshake that is accepted the frames begin. -/
lemma readHandshake_incoming {infoHash limit} (h : s.readHandshake infoHash limit = (.ok (), t)) :
    t.link.incoming = ⟨s.link.incoming.unread.drop Handshake.size, s.link.incoming.ending⟩ := by
  revert h
  fun_cases readHandshake infoHash limit s with
  | case1 | case2 | case4 => nofun
  | case3 =>
    rintro ⟨⟩
    rfl

/-- A session that is established is admitted by the frames behind the handshake. -/
lemma establish_admits {infoHash peerId limit}
    (h : s.establish infoHash peerId limit = (.ok (), t)) :
    Admitted ⟨s.link.incoming.unread.drop Handshake.size, s.link.incoming.ending⟩ t := by
  revert h
  fun_cases establish infoHash peerId limit s with
  | case1 | case2 => nofun
  | case3 _ sent _ read =>
    obtain rfl := link_of_send sent
    intro h
    have admitted := declareInterest_admits h
    rwa [readHandshake_incoming read] at admitted

/-- A session that was set up is admitted by the frames behind the handshake. -/
theorem connect_admits {peer infoHash peerId limit} {link : Link}
    (h : connect peer infoHash peerId limit link = .ok s) :
    Admitted ⟨link.incoming.unread.drop Handshake.size, link.incoming.ending⟩ s := by
  revert h
  fun_cases connect peer infoHash peerId limit link with
  | case1 _ established =>
    rintro ⟨⟩
    exact establish_admits established
  | case2 => nofun

/-- After any events, a session that was set up is interested, unchoked or rejected. It knows itself
choked exactly if the last word that was read on the connection is a choke, and unless it is
rejected this agrees with its state. Requests are allowed exactly in the unchoked state, and a
rejected session stays rejected. -/
theorem run_connect {peer : Endpoint} {infoHash peerId : Ident} {limit : Duration} {link : Link}
    {opened : Session} (events : List Event)
    (ok : connect peer infoHash peerId limit link = .ok opened) :
    let frames : Stream := ⟨link.incoming.unread.drop Handshake.size, link.incoming.ending⟩
    let read := heard frames opened.link.incoming ++ opened.heardIn events
    let s := opened.run events
    (s.state = .interestedSent ∨ s.state = .unchoked ∨ s.state = .rejected) ∧
      (s.choked = true ↔ lastWord read = some .choke) ∧
      (s.state ≠ .rejected → (s.state = .unchoked ↔ s.choked = false)) ∧
      (s.isUnchoked = true ↔ s.state = .unchoked) ∧
      (s.state = .rejected → ∀ later, (s.run later).state = .rejected) := by
  intro frames read s
  obtain ⟨state, choked, unchoked⟩ := run_coherent events (connect_admits ok).coherent
  refine ⟨state, choked, unchoked, ?_, fun rejected later => run_rejected later rejected⟩
  simp only [isUnchoked, Bool.and_eq_true, beq_iff_eq, Bool.not_eq_true']
  constructor
  · exact fun allowed => allowed.1
  · intro ready
    have alive : s.state ≠ .rejected := by
      rw [ready]
      nofun
    exact ⟨ready, (unchoked alive).mp ready⟩

/-- A choke and an unchoke are read, then the stream ends under a request; an unchoke that arrives
after that is still read, and revives nothing. -/
theorem run_connect_given_up :
    let greeting := (Handshake.plain .zero .zero).bytes
    let link : Link :=
      .fresh ⟨greeting ++ [0, 0, 0, 1, 1] ++ [0, 0, 0, 1, 0, 0, 0, 0, 1, 1], .closed⟩
    let opened : Session := ⟨⟨⟨127, 0, 0, 1⟩, 6881⟩, ⟨⟨[0, 0, 0, 1, 0, 0, 0, 0, 1, 1], .closed⟩,
      greeting ++ [0, 0, 0, 1, 2], none⟩, .unchoked, .zero, false, .unknown, [.ok .unchoke]⟩
    let s := opened.run [.next, .next, .requestBlock 0 0 1 default,
      .arrival [0, 0, 0, 1, 0, 0, 0, 0, 1, 1] .silent, .next, .next]
    connect ⟨⟨127, 0, 0, 1⟩, 6881⟩ .zero .zero default link = .ok opened ∧
      s.state = .rejected ∧ s.choked = false ∧ s.isUnchoked = false ∧
      ∀ later, (s.run later).state = .rejected := by
  intro greeting link opened s
  have ok : connect ⟨⟨127, 0, 0, 1⟩, 6881⟩ .zero .zero default link = .ok opened := by
    decide +kernel
  have rejected : s.state = .rejected := by decide +kernel
  obtain ⟨-, choked, -, allowed, stays⟩ := run_connect [.next, .next, .requestBlock 0 0 1 default,
    .arrival [0, 0, 0, 1, 0, 0, 0, 0, 1, 1] .silent, .next, .next] ok
  refine ⟨ok, rejected, ?_, ?_, stays rejected⟩
  · -- the last word is the unchoke
    rw [← Bool.not_eq_true]
    exact fun h => absurd (choked.mp h) (by decide +kernel)
  · rw [← Bool.not_eq_true]
    intro h
    have ready := allowed.mp h
    exact absurd (ready.symm.trans rejected) nofun

end Session

end Swarm.Peer
