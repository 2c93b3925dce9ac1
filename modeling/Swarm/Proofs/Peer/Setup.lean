import Swarm.Proofs.Peer.Waiting

/-!
# Setting a session up

A session comes about exactly if the peer sends a handshake for the same torrent and, after any
other complete frames, one that unchokes. This side sends its handshake in any case, and says that it
is interested exactly if a frame speaks after a handshake for the same torrent.
-/

namespace Swarm.Peer

open Swarm.Net (Ending Endpoint Link Stream)
open Swarm.Time (Duration)
open Swarm.Wire

variable {s : Session} {body rest b : Bytes} {bodies : List Bytes} {ending : Ending}

/-- A handshake of this protocol for this torrent. -/
structure Verified (infoHash : Ident) (head : Bytes) : Prop where
  length : head.length = 68
  header : head.take 20 = protocolHeader
  infoHash : (head.drop 28).take 20 = infoHash.bytes

/-- A handshake for this torrent, and complete frames up to one that unchokes. -/
structure Welcome (infoHash : Ident) (stream : Bytes) where
  head : Bytes
  /-- The frames before the one that unchokes. -/
  bodies : List Bytes
  /-- The body that unchokes. -/
  body : Bytes
  rest : Bytes
  verified : Verified infoHash head
  without : Without Unchokes bodies
  fits : body.length ≤ maxFrame
  unchokes : Unchokes body
  stream_eq : stream = head ++ framedAll bodies ++ framed body ++ rest

/-- A handshake for this torrent, and complete frames up to one that speaks. -/
def Replies (infoHash : Ident) (stream : Bytes) : Prop :=
  ∃ head bodies body rest, Verified infoHash head ∧ Without (fun _ => False) bodies ∧
    body.length ≤ maxFrame ∧ Speaks body ∧
    stream = head ++ framedAll bodies ++ framed body ++ rest

namespace Session

/-! ## The handshake -/

/-- A handshake for this torrent is taken off the stream, with the peer id in it. -/
lemma readHandshake_verified (limit) {infoHash head} (verified : Verified infoHash head)
    (h : s.link.incoming = ⟨head ++ b, ending⟩) :
    ∃ s', s.readHandshake infoHash limit = (.ok (), s') ∧ s'.remoteId.bytes = head.drop 48 ∧
      s'.link = { s.link with incoming := ⟨b, ending⟩ } := by
  obtain ⟨length, header, hash⟩ := verified
  have first : (head ++ b).take Handshake.size = head := List.take_left' length
  have after : (head ++ b).drop Handshake.size = b := List.drop_left' length
  have enough : ¬ head.length < Handshake.size := by
    rw [length]
    decide
  have read : Handshake.ofBytes? head = some ⟨(head.drop 20).take 8, infoHash,
      ⟨head.drop 48, by simp [length]⟩, by simp [length]⟩ := by
    rw [Handshake.ofBytes?, dif_pos ⟨length, header⟩]
    simp only [hash]
  rw [readHandshake, h]
  simp only [first, after, if_neg enough, read, if_pos]
  exact ⟨_, rfl, rfl, rfl⟩

/-- Without such a handshake there is an error, and nothing is sent. -/
lemma readHandshake_other {infoHash} (limit)
    (other : ∀ head b, s.link.incoming.unread = head ++ b → ¬ Verified infoHash head) :
    ∃ e s', s.readHandshake infoHash limit = (.error e, s') ∧ s'.link.sent = s.link.sent := by
  rw [readHandshake]
  dsimp only
  split
  · exact ⟨_, _, rfl, rfl⟩
  rename_i enough
  split
  · exact ⟨_, _, rfl, rfl⟩
  rename_i theirs read
  split
  · rename_i hash
    rw [Handshake.ofBytes?] at read
    split at read
    · rename_i fine
      cases read
      refine absurd ⟨fine.1, fine.2, ?_⟩ (other _ _ (List.take_append_drop _ _).symm)
      exact congrArg Ident.bytes hash
    · cases read
  · exact ⟨_, _, rfl, rfl⟩

/-! ## Interest -/

/-- The session once it has said that this side is interested. -/
def interested (s : Session) : Session :=
  { s.sending Message.interested.frame with state := .interestedSent }

/-- The first message is answered with interest; unless it unchokes, the wait goes on. -/
lemma declareInterest_read {limit first} {s' : Session} (writes : s'.link.writes ≠ some 0)
    (h : s.awaitAny limit = (.ok first, s')) :
    s.declareInterest limit =
      if first = .unchoke then (.ok (), { s'.interested with state := .unchoked })
      else s'.interested.awaitUnchoke limit s'.link.incoming.unread := by
  rw [declareInterest, h]
  simp only [send_of_writes writes]
  rfl

/-- Interest is declared once a frame speaks, whatever follows. -/
lemma declareInterest_sent (limit) (writes : s.link.writes ≠ some 0) (idle : Without Speaks bodies)
    (fits : body.length ≤ maxFrame) (speaks : Speaks body)
    (h : s.link.incoming = ⟨framedAll bodies ++ (framed body ++ rest), ending⟩) :
    (s.declareInterest limit).2.link.sent = s.link.sent ++ Message.interested.frame := by
  obtain ⟨m, -, awaited⟩ := awaitAny_speaks limit idle fits speaks h
  rw [declareInterest_read (by simpa [passing] using writes) awaited]
  split
  · simp [interested, sending, passing]
  · rw [awaitUnchoke_sent]
    simp [interested, sending, passing]

/-- If the stream breaks before any frame speaks, nothing is sent. -/
lemma declareInterest_idle (limit) {e} (idle : Without Speaks bodies)
    (broken : Broken ending b e rest) (h : s.link.incoming = ⟨framedAll bodies ++ b, ending⟩) :
    ∃ e' s', s.declareInterest limit = (.error e', s') ∧ s'.link.sent = s.link.sent := by
  obtain ⟨e', failed⟩ := awaitAny_broken limit idle broken h
  refine ⟨e', s.passing (bodies.map readBody ++ [.error e]) ⟨rest, ending⟩, ?_, rfl⟩
  rw [declareInterest, failed]

/-- After a first message that does not unchoke, interest is declared and the wait goes on. -/
lemma declareInterest_other (limit) (writes : s.link.writes ≠ some 0)
    (idle : Without Speaks bodies) (fits : body.length ≤ maxFrame) (speaks : Speaks body)
    (other : ¬ Unchokes body)
    (h : s.link.incoming = ⟨framedAll bodies ++ (framed body ++ rest), ending⟩) :
    ∃ s' : Session, s.declareInterest limit = s'.awaitUnchoke limit rest ∧
      s'.remoteId = s.remoteId ∧ s'.link.incoming = ⟨rest, ending⟩ ∧
      s'.link.sent = s.link.sent ++ Message.interested.frame := by
  obtain ⟨m, read, awaited⟩ := awaitAny_speaks limit idle fits speaks h
  have able : ((s.passing (bodies.map readBody ++ [.ok m]) ⟨rest, ending⟩).hear body).link.writes ≠
      some 0 := by
    simpa [passing] using writes
  rw [declareInterest_read able awaited, if_neg (ne_unchoke other read)]
  refine ⟨((s.passing (bodies.map readBody ++ [.ok m]) ⟨rest, ending⟩).hear body).interested,
    ?_, ?_, ?_, ?_⟩
  · simp [passing]
  · simp [interested, sending, passing]
  · simp [interested, sending, passing]
  · simp [interested, sending, passing]

/-- If a frame unchokes, the session allows requests. -/
lemma declareInterest_unchokes (limit) (writes : s.link.writes ≠ some 0)
    (none : Without Unchokes bodies) (fits : body.length ≤ maxFrame) (unchokes : Unchokes body)
    (h : s.link.incoming = ⟨framedAll bodies ++ (framed body ++ rest), ending⟩) :
    ∃ s', s.declareInterest limit = (.ok (), s') ∧ Granted s' s.remoteId ⟨rest, ending⟩
      (s.link.sent ++ Message.interested.frame) := by
  -- the first message may be the unchoke itself, and then there is no second loop
  rcases none.first Speaks with
    idle | ⟨before, first, after, rfl, idle, small, speaks, other, others⟩
  · obtain ⟨m, read, awaited⟩ := awaitAny_speaks limit idle fits unchokes.speaks h
    rw [readBody_eq_unchoke.mpr unchokes] at read
    cases read
    rw [declareInterest_read (by simpa [passing] using writes) awaited, if_pos rfl,
      hear_read (readBody_eq_unchoke.mpr unchokes)]
    exact ⟨_, rfl, rfl, rfl, rfl, rfl, rfl⟩
  · rw [framedAll_append, framedAll_cons, List.append_assoc, List.append_assoc] at h
    obtain ⟨s₁, run, remote, unread, sent⟩ :=
      declareInterest_other limit writes idle small speaks other h
    rw [run, ← remote, ← sent]
    exact awaitUnchoke_unchokes limit others (length_le_framedAll after _) fits unchokes unread

/-- Interest that meets broken frames before the peer unchokes ends with an error. -/
lemma declareInterest_broken (limit) {e} (writes : s.link.writes ≠ some 0)
    (none : Without Unchokes bodies) (broken : Broken ending b e rest)
    (h : s.link.incoming = ⟨framedAll bodies ++ b, ending⟩) :
    ∃ e' s', s.declareInterest limit = (.error e', s') := by
  rcases none.first Speaks with
    idle | ⟨before, first, after, rfl, idle, small, speaks, other, others⟩
  · obtain ⟨e', s', failed, -⟩ := declareInterest_idle limit idle broken h
    exact ⟨e', s', failed⟩
  · rw [framedAll_append, framedAll_cons, List.append_assoc, List.append_assoc] at h
    obtain ⟨s₁, run, -, unread, -⟩ :=
      declareInterest_other limit writes idle small speaks other h
    rw [run]
    exact awaitUnchoke_broken limit others (length_le_framedAll after b) broken unread

/-! ## The whole setup -/

/-- The session once it has sent a handshake. -/
def greeted (infoHash peerId : Ident) (s : Session) : Session :=
  { s.sending (Handshake.plain infoHash peerId).bytes with state := .handshakeSent }

section
variable {infoHash : Ident} {stream : Bytes} (peerId : Ident) (limit : Duration)
  (writes : s.link.writes = none) (h : s.link.incoming = ⟨stream, ending⟩)
include writes

/-- A session is established by a greeting, the handshake of the peer and the interest after it. -/
lemma establish_eq :
    s.establish infoHash peerId limit =
      match (s.greeted infoHash peerId).readHandshake infoHash limit with
      | (.error e, s) => (.error e, s)
      | (.ok (), s) => s.declareInterest limit := by
  have able : s.link.writes ≠ some 0 := by simp [writes]
  rw [establish, Link.send_of_writes able]
  rfl

include h

/-- After a handshake for this torrent it depends on the frames. -/
lemma establish_verified {head} (verified : Verified infoHash head) (eq : stream = head ++ b) :
    ∃ s' : Session, s.establish infoHash peerId limit = s'.declareInterest limit ∧
      s'.remoteId.bytes = head.drop 48 ∧ s'.link.incoming = ⟨b, ending⟩ ∧
      s'.link.sent = s.link.sent ++ (Handshake.plain infoHash peerId).bytes ∧
      s'.link.writes ≠ some 0 := by
  subst eq
  have incoming : (s.greeted infoHash peerId).link.incoming = ⟨head ++ b, ending⟩ := h
  obtain ⟨s', read, remote, link⟩ := readHandshake_verified limit verified incoming
  rw [establish_eq peerId limit writes, read]
  refine ⟨s', rfl, remote, ?_, ?_, ?_⟩
  · rw [link]
  · rw [link]
    rfl
  · simp [link, greeted, sending, writes]

/-- Without such a handshake only the own one is sent. -/
lemma establish_other (other : ¬ ∃ head b, stream = head ++ b ∧ Verified infoHash head) :
    ∃ e s', s.establish infoHash peerId limit = (.error e, s') ∧
      s'.link.sent = s.link.sent ++ (Handshake.plain infoHash peerId).bytes := by
  have none head b (eq : (s.greeted infoHash peerId).link.incoming.unread = head ++ b) :
      ¬ Verified infoHash head := by
    intro verified
    rw [show (s.greeted infoHash peerId).link.incoming = ⟨stream, ending⟩ from h] at eq
    exact other ⟨head, b, eq, verified⟩
  obtain ⟨e, s', failed, sent⟩ := readHandshake_other limit none
  rw [establish_eq peerId limit writes, failed]
  exact ⟨e, s', rfl, sent⟩

/-- A welcome makes a session, and what is left of the stream is what follows it. -/
lemma establish_welcome (w : Welcome infoHash stream) :
    ∃ s', s.establish infoHash peerId limit = (.ok (), s') ∧ s'.state = .unchoked ∧
      s'.choked = false ∧ s'.remoteId.bytes = w.head.drop 48 ∧
      s'.link.incoming = ⟨w.rest, ending⟩ ∧
      s'.link.sent = s.link.sent ++ (Handshake.plain infoHash peerId).bytes ++
        Message.interested.frame := by
  have eq : stream = w.head ++ (framedAll w.bodies ++ (framed w.body ++ w.rest)) :=
    w.stream_eq.trans (by rw [List.append_assoc, List.append_assoc])
  obtain ⟨s₁, run, remote, incoming, sent, able⟩ :=
    establish_verified peerId limit writes h w.verified eq
  obtain ⟨s', granted, ready⟩ :=
    declareInterest_unchokes limit able w.without w.fits w.unchokes incoming
  refine ⟨s', run.trans granted, ready.state, ready.choked, ?_, ready.incoming, ?_⟩
  · rw [ready.remoteId, remote]
  · rw [ready.sent, sent]

/-- Without a welcome in the stream, a session is not established. -/
lemma establish_unwelcome :
    Nonempty (Welcome infoHash stream) ∨
      ∃ e s', s.establish infoHash peerId limit = (.error e, s') := by
  by_cases verified : ∃ head b, stream = head ++ b ∧ Verified infoHash head
  · obtain ⟨head, b, eq, verified⟩ := verified
    obtain ⟨bodies, tail, rfl, none, stop⟩ := exists_frames ending Unchokes b
    rcases stop with ⟨body, rest, fits, unchokes, rfl⟩ | ⟨e, rest, broken⟩
    · exact .inl ⟨head, bodies, body, rest, verified, none, fits, unchokes, by simp [eq]⟩
    · obtain ⟨s₁, run, -, incoming, -, able⟩ :=
        establish_verified peerId limit writes h verified eq
      obtain ⟨e', s', failed⟩ := declareInterest_broken limit able none broken incoming
      exact .inr ⟨e', s', run.trans failed⟩
  · obtain ⟨e, s', failed, -⟩ := establish_other peerId limit writes h verified
    exact .inr ⟨e, s', failed⟩

/-- A frame that speaks is answered with interest. -/
lemma establish_replies (replies : Replies infoHash stream) :
    (s.establish infoHash peerId limit).2.link.sent =
      s.link.sent ++ (Handshake.plain infoHash peerId).bytes ++ Message.interested.frame := by
  obtain ⟨head, bodies, body, rest, verified, fine, fits, speaks, eq⟩ := replies
  rw [List.append_assoc, List.append_assoc] at eq
  obtain ⟨s₁, run, -, incoming, sent, able⟩ :=
    establish_verified peerId limit writes h verified eq
  rw [run, ← sent]
  -- the frame at the end need not be the first that speaks
  rcases fine.first Speaks with idle | ⟨before, first, after, rfl, idle, small, spoken, -, -⟩
  · exact declareInterest_sent limit able idle fits speaks incoming
  · rw [framedAll_append, framedAll_cons, List.append_assoc, List.append_assoc] at incoming
    exact declareInterest_sent limit able idle small spoken incoming

/-- Where no frame speaks, only the own handshake is sent. -/
lemma establish_silent (silent : ¬ Replies infoHash stream) :
    (s.establish infoHash peerId limit).2.link.sent =
      s.link.sent ++ (Handshake.plain infoHash peerId).bytes := by
  by_cases verified : ∃ head b, stream = head ++ b ∧ Verified infoHash head
  · obtain ⟨head, b, eq, verified⟩ := verified
    obtain ⟨bodies, tail, rfl, idle, stop⟩ := exists_frames ending Speaks b
    rcases stop with ⟨body, rest, fits, speaks, rfl⟩ | ⟨e, rest, broken⟩
    · have fine : Without (fun _ => False) bodies := fun body mem => ⟨(idle body mem).1, id⟩
      exact absurd ⟨head, bodies, body, rest, verified, fine, fits, speaks, by simp [eq]⟩ silent
    · obtain ⟨s₁, run, -, incoming, sent, -⟩ :=
        establish_verified peerId limit writes h verified eq
      obtain ⟨e', s', failed, quiet⟩ := declareInterest_idle limit idle broken incoming
      rw [run, failed, quiet, sent]
  · obtain ⟨e, s', failed, sent⟩ := establish_other peerId limit writes h verified
    rw [failed, sent]

end

/-- On a fresh connection a welcome makes a session. -/
lemma connect_welcome (peer : Endpoint) {infoHash : Ident} (peerId : Ident) (limit : Duration)
    {stream : Bytes} (ending : Ending) (w : Welcome infoHash stream) :
    ∃ session, connect peer infoHash peerId limit (Link.fresh ⟨stream, ending⟩) = .ok session := by
  obtain ⟨session, run, -⟩ := @establish_welcome (opened peer (Link.fresh ⟨stream, ending⟩)) ending
    infoHash stream peerId limit rfl rfl w
  exact ⟨session, by rw [connect, run]⟩

/-- A session comes about only on a connection that begins with a handshake for the torrent. -/
lemma verified_of_connect {peer : Endpoint} {infoHash peerId : Ident} {limit : Duration} {link : Link}
    (h : connect peer infoHash peerId limit link = .ok s) :
    ∃ head b, link.incoming.unread = head ++ b ∧ Verified infoHash head := by
  by_contra none
  have established : (opened peer link).establish infoHash peerId limit = (.ok (), s) := by
    rw [connect] at h
    split at h
    · rename_i run
      cases h
      exact run
    · cases h
  rw [establish] at established
  split at established
  · cases established
  rename_i link' sent
  have incoming : link'.incoming = link.incoming := by
    by_cases writes : link.writes = some 0
    · rw [Link.send, show (opened peer link).link.writes = some 0 from writes] at sent
      cases sent
    · rw [Link.send_of_writes (l := (opened peer link).link) writes] at sent
      cases sent
      rfl
  set greeted : Session := { opened peer link with link := link', state := .handshakeSent }
  obtain ⟨e, s', failed, -⟩ : ∃ e s', greeted.readHandshake infoHash limit = (.error e, s') ∧ _ :=
    readHandshake_other limit fun head b eq verified =>
      none ⟨head, b, (congrArg (·.unread) incoming.symm).trans eq, verified⟩
  rw [failed] at established
  cases established

/-- With a peer that closes its side in the end, a session comes about exactly if the stream is a
welcome, and then the session allows requests, knows the peer id of the handshake, leaves what
follows the welcome, and has sent a handshake and that it is interested. Otherwise it has sent a
handshake, and that it is interested exactly if the peer has replied. -/
theorem connect_closed (peer : Endpoint) (infoHash peerId : Ident) (limit : Duration)
    (stream : Bytes) :
    let ours := protocolHeader ++ List.replicate 8 0 ++ infoHash.bytes ++ peerId.bytes
    let outcome := connect peer infoHash peerId limit (Link.fresh ⟨stream, .closed⟩)
    ((∃ session, outcome = .ok session) ↔ Nonempty (Welcome infoHash stream)) ∧
      (∀ w : Welcome infoHash stream, ∃ session, outcome = .ok session ∧
        session.state = .unchoked ∧ session.choked = false ∧
        session.remoteId.bytes = w.head.drop 48 ∧
        session.link.incoming = ⟨w.rest, .closed⟩ ∧
        session.link.sent = ours ++ [0, 0, 0, 1, 2]) ∧
      ∀ e link, outcome = .error (e, link) →
        (Replies infoHash stream → link.sent = ours ++ [0, 0, 0, 1, 2]) ∧
        (¬ Replies infoHash stream → link.sent = ours) := by
  intro ours outcome
  set s := opened peer (Link.fresh ⟨stream, .closed⟩)
  have writes : s.link.writes = none := rfl
  have incoming : s.link.incoming = ⟨stream, .closed⟩ := rfl
  have welcome (w : Welcome infoHash stream) : ∃ session, outcome = .ok session ∧
      session.state = .unchoked ∧ session.choked = false ∧
      session.remoteId.bytes = w.head.drop 48 ∧
      session.link.incoming = ⟨w.rest, .closed⟩ ∧
      session.link.sent = ours ++ [0, 0, 0, 1, 2] := by
    obtain ⟨s', run, facts⟩ := establish_welcome peerId limit writes incoming w
    refine ⟨s', ?_, facts⟩
    simp only [outcome, connect]
    rw [run]
  refine ⟨⟨?_, ?_⟩, welcome, ?_⟩
  · rintro ⟨session, ok⟩
    rcases establish_unwelcome peerId limit writes incoming with w | ⟨e, s', failed⟩
    · exact w
    · simp only [outcome, connect] at ok
      rw [failed] at ok
      cases ok
  · rintro ⟨w⟩
    obtain ⟨session, ok, -⟩ := welcome w
    exact ⟨session, ok⟩
  · intro e link failed
    have link_eq : link = (s.establish infoHash peerId limit).2.link := by
      simp only [outcome, connect] at failed
      split at failed
      · cases failed
      · rename_i run
        cases failed
        exact (congrArg (·.2.link) run).symm
    rw [link_eq]
    exact ⟨establish_replies peerId limit writes incoming,
      establish_silent peerId limit writes incoming⟩

end Session

end Swarm.Peer
