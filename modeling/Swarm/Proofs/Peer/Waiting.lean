import Swarm.Proofs.Peer.Listening

/-!
# Waiting for frames

The loops that wait for frames while a session is set up, followed one frame at a time. Frames that
do not speak are skipped, any other is a message, and the second loop passes over all of these until
one unchokes. A broken stream ends either wait with an error, and waiting sends nothing.
-/

namespace Swarm.Peer

open Swarm.Net (Ending Link Stream)
open Swarm.Time (Duration)
open Swarm.Wire

variable {s : Session} {body rest tail : Bytes} {bodies : List Bytes} {ending : Ending}

namespace Session

/-! ## Waiting for a message -/

/-- A frame that does not speak is skipped. -/
lemma awaitMessage_idle (limit) {x fuel} (fits : body.length ≤ maxFrame) (idle : ¬ Speaks body)
    (h : s.link.incoming = ⟨framed body ++ rest, ending⟩) :
    s.awaitMessage limit (x :: fuel) =
      (s.behind (readBody body) ⟨rest, ending⟩).awaitMessage limit fuel := by
  have next := next_framed fits h
  rw [hear_idle idle] at next
  rw [awaitMessage, next]
  rcases read_of_not_speaks idle with read | ⟨m, read⟩
  · rw [read]
  · rw [read]

/-- Frames that do not speak are skipped, if the fuel is enough for them. -/
lemma awaitMessage_without (limit) {fuel} (idle : Without Speaks bodies)
    (enough : bodies.length ≤ fuel.length)
    (h : s.link.incoming = ⟨framedAll bodies ++ tail, ending⟩) :
    ∃ fuel', s.awaitMessage limit fuel =
      (s.passing (bodies.map readBody) ⟨tail, ending⟩).awaitMessage limit fuel' := by
  induction bodies generalizing s fuel with
  | nil =>
    have unread : s.link.incoming = ⟨tail, ending⟩ := h
    exact ⟨fuel, by rw [← unread, List.map_nil, passing_nil]⟩
  | cons body bodies ih =>
    cases fuel with
    | nil => simp at enough
    | cons x fuel =>
      obtain ⟨⟨fits, quiet⟩, others⟩ := List.forall_mem_cons.mp idle
      rw [framedAll_cons, List.append_assoc] at h
      rw [awaitMessage_idle limit fits quiet h, List.map_cons, ← behind_passing]
      exact ih others (Nat.le_of_succ_le_succ enough) rfl

/-- The first frame that speaks is the message. -/
lemma awaitMessage_speaks (limit) {fuel} (fits : body.length ≤ maxFrame) (speaks : Speaks body)
    (h : s.link.incoming = ⟨framed body ++ rest, ending⟩) :
    ∃ m, readBody body = .ok m ∧
      s.awaitMessage limit fuel = (.ok m, (s.behind (.ok m) ⟨rest, ending⟩).hear body) := by
  obtain ⟨m, read, something⟩ := speaks.read
  refine ⟨m, read, ?_⟩
  rw [awaitMessage.eq_def, next_framed fits h, read]
  cases m with
  | keepAlive => exact absurd rfl something
  | _ => rfl

/-- A wait for a message that meets broken frames ends with an error. -/
lemma awaitMessage_broken (limit) {fuel b e} (broken : Broken ending b e rest)
    (h : s.link.incoming = ⟨b, ending⟩) :
    ∃ e', s.awaitMessage limit fuel = (.error e', s.behind (.error e) ⟨rest, ending⟩) := by
  rw [awaitMessage.eq_def, next_broken broken h]
  cases e with
  | malformed m => exact absurd rfl (broken.ne_malformed m)
  | _ => exact ⟨_, rfl⟩

/-- A wait for any message passes keep-alives. -/
lemma awaitAny_without (limit) (idle : Without Speaks bodies)
    (h : s.link.incoming = ⟨framedAll bodies ++ tail, ending⟩) :
    ∃ fuel, s.awaitAny limit =
      (s.passing (bodies.map readBody) ⟨tail, ending⟩).awaitMessage limit fuel := by
  have enough : bodies.length ≤ s.link.incoming.unread.length := by
    rw [h]
    exact length_le_framedAll bodies tail
  exact awaitMessage_without limit idle enough h

/-- The message that is waited for is the first that speaks. -/
theorem awaitAny_speaks (limit) (idle : Without Speaks bodies) (fits : body.length ≤ maxFrame)
    (speaks : Speaks body)
    (h : s.link.incoming = ⟨framedAll bodies ++ (framed body ++ rest), ending⟩) :
    ∃ m, readBody body = .ok m ∧
      s.awaitAny limit =
        (.ok m, (s.passing (bodies.map readBody ++ [.ok m]) ⟨rest, ending⟩).hear body) := by
  obtain ⟨fuel, skipped⟩ := awaitAny_without limit idle h
  simp only [skipped, ← passing_behind s _ _ ⟨framed body ++ rest, ending⟩]
  exact awaitMessage_speaks limit fits speaks rfl

/-- If the stream breaks before any frame speaks, waiting fails. -/
theorem awaitAny_broken (limit) {b e} (idle : Without Speaks bodies)
    (broken : Broken ending b e rest)
    (h : s.link.incoming = ⟨framedAll bodies ++ b, ending⟩) :
    ∃ e', s.awaitAny limit =
      (.error e', s.passing (bodies.map readBody ++ [.error e]) ⟨rest, ending⟩) := by
  obtain ⟨fuel, skipped⟩ := awaitAny_without limit idle h
  simp only [skipped, ← passing_behind s _ _ ⟨b, ending⟩]
  exact awaitMessage_broken limit broken rfl

/-- A wait for a message sends nothing. -/
lemma awaitMessage_sent (limit fuel) (s : Session) :
    (s.awaitMessage limit fuel).2.link.sent = s.link.sent := by
  fun_induction awaitMessage limit fuel s with
  | case2 s s' read x fuel ih => exact ih.trans (next_sent read)
  | case4 s m s' read x fuel ih => exact ih.trans (next_sent read)
  | _ => exact next_sent ‹_›

/-- A wait for any message sends nothing. -/
lemma awaitAny_sent {limit r} {s' : Session} (h : s.awaitAny limit = (r, s')) :
    s'.link.sent = s.link.sent := by
  rw [awaitAny] at h
  have quiet := awaitMessage_sent limit s.link.incoming.unread s
  rwa [h] at quiet

/-! ## Waiting until the peer unchokes -/

/-- The session allows requests; this is the peer's id, this is left to read, and this was sent. -/
structure Granted (s : Session) (remote : Ident) (incoming : Stream) (sent : Bytes) : Prop where
  state : s.state = .unchoked
  choked : s.choked = false
  remoteId : s.remoteId = remote
  incoming : s.link.incoming = incoming
  sent : s.link.sent = sent

/-- A message that does not unchoke is not the end of the wait. -/
lemma awaitUnchoke_other {limit x fuel m} {s' : Session} (h : s.awaitAny limit = (.ok m, s'))
    (other : m ≠ .unchoke) :
    s.awaitUnchoke limit (x :: fuel) = s'.awaitUnchoke limit fuel := by
  rw [awaitUnchoke, h]
  cases m with
  | unchoke => exact absurd rfl other
  | _ => rfl

/-- Frames that do not unchoke are passed over, if the fuel is enough for them; some that do not
even speak may be left. -/
lemma awaitUnchoke_without (limit) {fuel} (none : Without Unchokes bodies)
    (enough : bodies.length ≤ fuel.length)
    (h : s.link.incoming = ⟨framedAll bodies ++ tail, ending⟩) :
    ∃ fuel' left, ∃ s' : Session, s.awaitUnchoke limit fuel = s'.awaitUnchoke limit fuel' ∧
      Without Speaks left ∧ s'.remoteId = s.remoteId ∧
      s'.link = { s.link with incoming := ⟨framedAll left ++ tail, ending⟩ } := by
  -- each call of the inner loop takes several frames, all up to the next that speaks
  induction size : bodies.length using Nat.strongRecOn generalizing bodies s fuel with
  | ind size ih =>
    rcases none.first Speaks with
      idle | ⟨before, body, after, rfl, idle, fits, speaks, other, others⟩
    · exact ⟨fuel, bodies, s, rfl, idle, rfl, by rw [← h]⟩
    cases fuel with
    | nil => simp at enough
    | cons x fuel =>
      simp only [List.length_append, List.length_cons] at enough size
      rw [framedAll_append, framedAll_cons, List.append_assoc, List.append_assoc] at h
      obtain ⟨m, read, awaited⟩ := awaitAny_speaks limit idle fits speaks h
      rw [awaitUnchoke_other awaited (ne_unchoke other read)]
      have unread : ((s.passing (before.map readBody ++ [.ok m])
          ⟨framedAll after ++ tail, ending⟩).hear body).link.incoming =
            ⟨framedAll after ++ tail, ending⟩ := by
        rw [hear_link, passing]
      have enough : after.length ≤ fuel.length := by omega
      obtain ⟨fuel', left, s', run, quiet, remote, link⟩ :=
        ih after.length (by omega) others enough unread rfl
      exact ⟨fuel', left, s', run, quiet, by simpa [passing] using remote,
        by simpa [passing] using link⟩

/-- The wait ends with the first frame that unchokes. -/
theorem awaitUnchoke_unchokes (limit) {fuel} (none : Without Unchokes bodies)
    (enough : bodies.length ≤ fuel.length) (fits : body.length ≤ maxFrame)
    (unchokes : Unchokes body)
    (h : s.link.incoming = ⟨framedAll bodies ++ (framed body ++ rest), ending⟩) :
    ∃ s', s.awaitUnchoke limit fuel = (.ok (), s') ∧
      Granted s' s.remoteId ⟨rest, ending⟩ s.link.sent := by
  obtain ⟨fuel', left, s', run, idle, remote, link⟩ :=
    awaitUnchoke_without limit none enough h
  obtain ⟨m, read, awaited⟩ :=
    awaitAny_speaks limit idle fits unchokes.speaks (by rw [link])
  have unchoke : m = .unchoke := by
    rw [readBody_eq_unchoke.mpr unchokes] at read
    cases read
    rfl
  subst unchoke
  rw [run, awaitUnchoke.eq_def, awaited, hear_read read]
  refine ⟨_, rfl, rfl, rfl, remote, rfl, ?_⟩
  show s'.link.sent = s.link.sent
  rw [link]

/-- If the stream breaks before any frame unchokes, the wait fails. -/
theorem awaitUnchoke_broken (limit) {fuel b e} (none : Without Unchokes bodies)
    (enough : bodies.length ≤ fuel.length) (broken : Broken ending b e rest)
    (h : s.link.incoming = ⟨framedAll bodies ++ b, ending⟩) :
    ∃ e' s', s.awaitUnchoke limit fuel = (.error e', s') := by
  obtain ⟨fuel', left, s', run, idle, remote, link⟩ :=
    awaitUnchoke_without limit none enough h
  obtain ⟨e', failed⟩ := awaitAny_broken limit idle broken (by rw [link])
  rw [run, awaitUnchoke.eq_def, failed]
  exact ⟨e', _, rfl⟩

/-- A wait for the peer to unchoke sends nothing. -/
lemma awaitUnchoke_sent (limit fuel) (s : Session) :
    (s.awaitUnchoke limit fuel).2.link.sent = s.link.sent := by
  fun_induction awaitUnchoke limit fuel s with
  | case2 fuel s s' read =>
    show s'.link.sent = s.link.sent
    exact awaitAny_sent read
  | case4 s m s' _ read x fuel ih => exact ih.trans (awaitAny_sent read)
  | _ => exact awaitAny_sent ‹_›

end Session

end Swarm.Peer
