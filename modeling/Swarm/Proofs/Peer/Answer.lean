import Swarm.Proofs.Peer.Request

/-!
# Requests on any session

What a request does whatever the session, and however the stream ends. It may be refused before
anything is sent; otherwise one message is sent, and a block is returned only if the stream delivers
it, with the stream left right behind it.
-/

namespace Swarm.Peer

open Swarm.Net (Ending Stream)
open Swarm.Time (Duration)
open Swarm.Wire

/-- The errors with which a request is refused before anything is sent. -/
inductive Refused : DownloadError → Prop where
  | notUnchoked :
    Refused .notUnchoked
  | invalidRequest {r} :
    Refused (.invalidRequest r)

variable {s s' : Session} {index start : UInt32} {length : Nat} {limit : Duration} {data : Bytes}
  {ending : Ending}

namespace Session

/-- Where the stream is broken, the wait fails. -/
lemma awaitBlock_broken (index start length limit fuel) {b e rest}
    (broken : Broken ending b e rest) (h : s.link.incoming = ⟨b, ending⟩) :
    s.awaitBlock index start length limit fuel =
      (.error (frameFailure length limit e), (s.behind (.error e) ⟨rest, ending⟩).reject) := by
  rw [awaitBlock.eq_def, next_broken broken h]

/-- Where a malformed frame or a choke stands, the wait fails. -/
lemma awaitBlock_fails (index start length limit fuel) {body rest : Bytes}
    (fits : body.length ≤ maxFrame) (bad : ¬ WellFormed body ∨ Chokes body)
    (h : s.link.incoming = ⟨framed body ++ rest, ending⟩) :
    ∃ e, (s.awaitBlock index start length limit fuel).1 = .error e := by
  rcases bad with malformed | chokes
  · obtain ⟨fine, -⟩ | ⟨-, m, read⟩ := readBody_cases body
    · exact absurd fine malformed
    · rw [awaitBlock.eq_def, next_framed fits h, read]
      exact ⟨_, rfl⟩
  · rw [awaitBlock.eq_def, next_framed fits h, readBody_eq_choke.mpr chokes]
    exact ⟨_, rfl⟩

/-- A wait ends with a block only if the stream delivers it. -/
theorem awaitBlock_ok {fuel : Bytes} (unchoked : s.isUnchoked)
    (enough : s.link.incoming.unread.length ≤ fuel.length)
    (run : s.awaitBlock index start length limit fuel = (.ok data, s')) :
    ∃ d : Delivery index start length s.link.incoming.unread, d.block = data ∧
      s'.link = { s.link with incoming := ⟨d.rest, s.link.incoming.ending⟩ } := by
  obtain ⟨bodies, tail, eq, without, stop⟩ :=
    exists_frames s.link.incoming.ending (Decides index start) s.link.incoming.unread
  have frames : bodies.length ≤ fuel.length := by
    refine Nat.le_trans ?_ enough
    rw [eq]
    exact length_le_framedAll bodies tail
  have incoming : s.link.incoming = ⟨framedAll bodies ++ tail, s.link.incoming.ending⟩ := by
    rw [← eq]
  obtain ⟨fuel', t, passed, -, link⟩ := awaitBlock_without length limit without frames unchoked incoming
  have unread : t.link.incoming = ⟨tail, s.link.incoming.ending⟩ := by rw [link]
  rw [passed] at run
  -- the frames before this one decide nothing: either it does, or the stream is broken
  rcases stop with ⟨body, rest, fits, decides, rfl⟩ | ⟨e, rest, broken⟩
  · rcases decides with malformed | chokes | ⟨block, rfl⟩
    · obtain ⟨e, failed⟩ := awaitBlock_fails index start length limit fuel' fits (.inl malformed) unread
      rw [run] at failed
      cases failed
    · obtain ⟨e, failed⟩ := awaitBlock_fails index start length limit fuel' fits (.inr chokes) unread
      rw [run] at failed
      cases failed
    · rw [awaitBlock_block length limit fuel' fits unread] at run
      by_cases same : block.length = length
      · rw [if_pos same] at run
        cases run
        refine ⟨⟨bodies, data, rest, without, same, by rw [eq, List.append_assoc]⟩, rfl, ?_⟩
        rw [behind, link]
      · rw [if_neg same] at run
        cases run
  · rw [awaitBlock_broken index start length limit fuel' broken unread] at run
    cases run

/-- A request is refused and changes nothing, or gives the session up because it cannot be sent, or is
sent and waited for. -/
theorem requestBlock_cases (index start : UInt32) (length : Nat) (limit : Duration) (s : Session) :
    (∃ e, Refused e ∧ s.requestBlock index start length limit = (.error e, s)) ∨
    (∃ f, s.requestBlock index start length limit = (.error (.send f), s.reject)) ∨
    (s.isUnchoked ∧ s.link.writes ≠ some 0 ∧ 1 ≤ length ∧ length ≤ maxBlock ∧
      s.requestBlock index start length limit =
        (s.sending (Message.request index start (UInt32.ofNat length)).frame).awaitBlock index start
          length limit s.link.incoming.unread) := by
  by_cases unchoked : s.isUnchoked
  · by_cases sensible : length = 0 ∨ maxBlock < length
    · refine .inl ⟨.invalidRequest (.blockLength length), .invalidRequest, ?_⟩
      rw [requestBlock, if_neg (by simp [unchoked]), if_pos sensible]
    · have positive : 1 ≤ length := by omega
      have small : length ≤ maxBlock := by omega
      by_cases writes : s.link.writes = some 0
      · refine .inr (.inl ⟨.brokenPipe, ?_⟩)
        rw [requestBlock, if_neg (by simp [unchoked]), if_neg sensible, send, Net.Link.send, writes]
      · exact .inr (.inr ⟨unchoked, writes, positive, small,
          requestBlock_open index start limit unchoked writes positive small⟩)
  · refine .inl ⟨.notUnchoked, .notUnchoked, ?_⟩
    rw [requestBlock, if_pos (by simp [unchoked])]

/-- A request sends nothing, or one message. -/
lemma requestBlock_sent (index start : UInt32) (length : Nat) (limit : Duration) (s : Session) :
    (s.requestBlock index start length limit).2.link.sent = s.link.sent ∨
    (length ≤ maxBlock ∧ (s.requestBlock index start length limit).2.link.sent =
      s.link.sent ++ (Message.request index start (UInt32.ofNat length)).frame) := by
  rcases requestBlock_cases index start length limit s with
    ⟨e, -, refused⟩ | ⟨f, unsent⟩ | ⟨-, -, -, small, waited⟩
  · rw [refused]
    exact .inl rfl
  · rw [unsent]
    exact .inl rfl
  · rw [waited, awaitBlock_sent]
    exact .inr ⟨small, rfl⟩

/-- A request returns a block only if the stream delivers it. -/
theorem requestBlock_ok (run : s.requestBlock index start length limit = (.ok data, s')) :
    length ≤ maxBlock ∧ ∃ d : Delivery index start length s.link.incoming.unread, d.block = data ∧
      s'.link.incoming = ⟨d.rest, s.link.incoming.ending⟩ ∧
      s'.link.sent = s.link.sent ++ (Message.request index start (UInt32.ofNat length)).frame := by
  rcases requestBlock_cases index start length limit s with
    ⟨e, -, refused⟩ | ⟨f, unsent⟩ | ⟨unchoked, -, -, small, waited⟩
  · rw [refused] at run
    cases run
  · rw [unsent] at run
    cases run
  · rw [waited] at run
    obtain ⟨d, block, link⟩ := awaitBlock_ok
      (s := s.sending (Message.request index start (UInt32.ofNat length)).frame) unchoked
      (Nat.le_refl _) run
    refine ⟨small, d, block, ?_, ?_⟩
    · rw [link]
      rfl
    · rw [link]
      rfl

end Session

end Swarm.Peer
