import Swarm.Proofs.Peer.Failures
import Swarm.Proofs.Peer.Piece

/-!
# After a failed request

What a request for a block leaves behind when it fails. If it is refused, nothing has changed. A choke
and a block of another size than was asked for are complete frames: the session stands right behind
them and can be used again, after a choke as soon as an unchoke is read. Every other failure leaves the
connection in an unknown state and gives the session up for good.
-/

namespace Swarm.Peer

open Swarm.Net (Link)
open Swarm.Time (Duration)
open Swarm.Wire

/-- Frames that decide nothing for a request, and then one of a kind that decides it. -/
structure Decision (index start : UInt32) (kind : Bytes → Prop) (stream : Bytes) where
  bodies : List Bytes
  body : Bytes
  rest : Bytes
  without : Without (Decides index start) bodies
  fits : body.length ≤ maxFrame
  decisive : kind body
  stream_eq : stream = framedAll bodies ++ framed body ++ rest

/-- The body is that of a block for this place, and the block has another size. -/
def Misfit (index start : UInt32) (length : Nat) (body : Bytes) : Prop :=
  ∃ block, body = pieceBody index start block ∧ block.length ≠ length

namespace Session

/-- The connection once a request was sent and the stream was read up to this rest. -/
def linkBehind (s : Session) (index start : UInt32) (length : Nat) (rest : Bytes) : Link :=
  { (s.sending (Message.request index start (UInt32.ofNat length)).frame).link with
    incoming := ⟨rest, s.link.incoming.ending⟩ }

/-- Requests that make sense and can be written return the block that the stream delivers. -/
def Serves (s : Session) : Prop :=
  ∀ index start length limit, 1 ≤ length → length ≤ maxBlock → s.link.writes ≠ some 0 →
    ∀ d : Delivery index start length s.link.incoming.unread,
      (s.requestBlock index start length limit).1 = .ok d.block

/-- Requests for a block are refused, and so are those for a piece that has blocks; nothing is sent or
read for them. -/
structure Shut (s : Session) : Prop where
  block : ∀ index start length limit,
    s.requestBlock index start length limit = (.error .notUnchoked, s)
  piece : ∀ config index pieceLength, 1 ≤ config.blockSize → 1 ≤ pieceLength →
    pieceLength < 2 ^ 32 → s.downloadPiece config index pieceLength = (.error .notUnchoked, s)

end Session

variable {s t : Session} {index start : UInt32} {length : Nat} {limit : Duration}
  {e : DownloadError} {ms : List Message} {kind : Bytes → Prop}

/-! ## What a session allows -/

namespace Session

/-- An unchoked session serves. -/
lemma serves_of_isUnchoked (unchoked : s.isUnchoked) : s.Serves := by
  intro index start length limit positive small writes d
  obtain ⟨t, run, -⟩ :=
    requestBlock_delivers index start limit unchoked rfl writes positive small d
  rw [run]

/-- An unchoked session is in that state. -/
lemma state_of_isUnchoked (unchoked : s.isUnchoked) : s.state = .unchoked := by
  simp only [isUnchoked, Bool.and_eq_true, beq_iff_eq] at unchoked
  exact unchoked.1

/-- An unchoked session is coherent without a word of the peer. -/
lemma coherent_unchoked (unchoked : s.isUnchoked) : Coherent s [] := by
  simp only [isUnchoked, Bool.and_eq_true, beq_iff_eq, Bool.not_eq_true'] at unchoked
  obtain ⟨state, choked⟩ := unchoked
  constructor <;> simp [state, choked, lastWord]

/-- A session that was choked is coherent with that as the last word. -/
lemma coherent_choked (state : s.state = .interestedSent) (choked : s.choked = true) :
    Coherent s [.choke] := by
  constructor <;> simp [state, choked, lastWord]

/-- A session that agrees with its messages serves, unless it is given up or the last word is a
choke. -/
lemma serves_of_coherent (h : Coherent s ms) (last : lastWord ms ≠ some .choke)
    (alive : s.state ≠ .rejected) : s.Serves := by
  have free : s.choked = false := by
    rw [← Bool.not_eq_true]
    exact fun choked => last (h.choked.mp choked)
  have ready : s.state = .unchoked := (h.unchoked alive).mpr free
  apply serves_of_isUnchoked
  rw [isUnchoked, ready, free]
  rfl

/-- A rejected session is shut. -/
lemma shut_of_rejected (rejected : s.state = .rejected) : s.Shut where
  block := requestBlock_rejected rejected
  piece config index pieceLength positive nonempty small := by
    have row := row_pieceBlocks positive pieceLength
    rw [downloadPiece_eq index s positive small]
    cases blocks : pieceBlocks config.blockSize pieceLength with
    | nil =>
      rw [blocks] at row
      cases row
      cases nonempty
    | cons b bs => rw [requestAll, requestBlock_rejected rejected]

/-! ## How a request ends -/

/-- The choke ends the wait, and the session takes note of it. -/
lemma awaitBlock_choke (index start length limit fuel) {body rest : Bytes} {ending}
    (fits : body.length ≤ maxFrame) (chokes : Chokes body)
    (h : s.link.incoming = ⟨framed body ++ rest, ending⟩) :
    s.awaitBlock index start length limit fuel =
      (.error .choked, (s.behind (.ok .choke) ⟨rest, ending⟩).learn .choke) := by
  have read := readBody_eq_choke.mpr chokes
  rw [awaitBlock.eq_def, next_framed fits h, read, hear_read read]
  rfl

/-- A malformed frame rejects the session. -/
lemma awaitBlock_malformed (index start length limit fuel) {body rest : Bytes} {ending}
    (fits : body.length ≤ maxFrame) (bad : ¬ WellFormed body)
    (h : s.link.incoming = ⟨framed body ++ rest, ending⟩) :
    ∃ e t, s.awaitBlock index start length limit fuel = (.error (frameFailure length limit e), t) ∧
      t.state = .rejected := by
  obtain ⟨fine, -⟩ | ⟨-, m, read⟩ := readBody_cases body
  · exact absurd fine bad
  · rw [awaitBlock.eq_def, next_framed fits h, read]
    exact ⟨_, _, rfl, rfl⟩

/-- The failure on account of a frame is neither a refusal nor a choke. -/
lemma frameFailure_other (length : Nat) (limit : Duration) (e : FrameError) :
    ¬ Refused (frameFailure length limit e) ∧ frameFailure length limit e ≠ .choked := by
  cases e <;> exact ⟨nofun, nofun⟩

section
variable (index start : UInt32) (limit : Duration) (unchoked : s.isUnchoked)
  (writes : s.link.writes ≠ some 0) (positive : 1 ≤ length) (small : length ≤ maxBlock)
include unchoked writes positive small

/-- A request that is sent is waited for up to the frame that decides it. -/
lemma requestBlock_decided (d : Decision index start kind s.link.incoming.unread) :
    ∃ fuel, ∃ t : Session, s.requestBlock index start length limit =
      t.awaitBlock index start length limit fuel ∧ t.isUnchoked ∧
      t.link = s.linkBehind index start length (framed d.body ++ d.rest) :=
  requestBlock_without index start limit unchoked rfl writes positive small d.without
    (d.stream_eq.trans (List.append_assoc ..))

/-- A request that is answered by a choke ends with that and leaves the session choked. -/
lemma requestBlock_choked (d : Decision index start Chokes s.link.incoming.unread) :
    ∃ t, s.requestBlock index start length limit = (.error .choked, t) ∧
      t.state = .interestedSent ∧ t.choked = true ∧
      t.link = s.linkBehind index start length d.rest := by
  obtain ⟨fuel, t, run, still, link⟩ :=
    requestBlock_decided index start limit unchoked writes positive small d
  rw [run, awaitBlock_choke index start length limit fuel d.fits d.decisive (by rw [link]; rfl)]
  refine ⟨_, rfl, ?_, rfl, ?_⟩
  · simp [learn, behind, state_of_isUnchoked still]
  · rw [learn_link, behind, link]
    rfl

/-- A request that is answered by a block of another length ends with that and leaves the session
unchoked. -/
lemma requestBlock_misfit (d : Decision index start (Misfit index start length)
      s.link.incoming.unread) :
    ∃ n t, s.requestBlock index start length limit = (.error (.shortBlock length n), t) ∧
      t.isUnchoked ∧ t.link = s.linkBehind index start length d.rest := by
  obtain ⟨fuel, t, run, still, link⟩ :=
    requestBlock_decided index start limit unchoked writes positive small d
  obtain ⟨block, eq, other⟩ := d.decisive
  have fits := d.fits
  rw [eq] at fits link
  rw [run, awaitBlock_block length limit fuel fits (by rw [link]; rfl), if_neg other]
  refine ⟨block.length, _, rfl, still, ?_⟩
  rw [behind, link]
  rfl

/-- A request that is sent is answered, or ends with a choke, a misfit or a session that is given
up. -/
lemma requestBlock_sent_cases :
    (∃ data t, s.requestBlock index start length limit = (.ok data, t)) ∨
    Nonempty (Decision index start Chokes s.link.incoming.unread) ∨
    Nonempty (Decision index start (Misfit index start length) s.link.incoming.unread) ∨
    ∃ e t, s.requestBlock index start length limit = (.error (frameFailure length limit e), t) ∧
      t.state = .rejected := by
  obtain ⟨bodies, tail, eq, without, stop⟩ :=
    exists_frames s.link.incoming.ending (Decides index start) s.link.incoming.unread
  obtain ⟨fuel, t, run, still, link⟩ := requestBlock_without index start limit unchoked rfl writes
    positive small without eq
  have incoming : t.link.incoming = ⟨tail, s.link.incoming.ending⟩ := by rw [link]
  rcases stop with ⟨body, rest, fits, decides, rfl⟩ | ⟨e, rest, broken⟩
  · have whole := eq.trans (List.append_assoc ..).symm
    rcases decides with bad | chokes | ⟨block, rfl⟩
    · rw [run]
      exact .inr (.inr (.inr (awaitBlock_malformed index start length limit fuel fits bad incoming)))
    · exact .inr (.inl ⟨bodies, body, rest, without, fits, chokes, whole⟩)
    · by_cases same : block.length = length
      · rw [run, awaitBlock_block length limit fuel fits incoming, if_pos same]
        exact .inl ⟨_, _, rfl⟩
      · exact .inr (.inr (.inl ⟨bodies, _, rest, without, fits, ⟨block, rfl, same⟩, whole⟩))
  · rw [run, awaitBlock_broken index start length limit fuel broken incoming]
    exact .inr (.inr (.inr ⟨_, _, rfl, rfl⟩))

end

/-- What a request leaves when it fails. If it is refused, the session is as it was. If the peer chokes,
or sends a block of another size, the session stands right behind that frame and is not rejected: it
serves requests as long as it is not given up, after a choke once the last word that it reads is an
unchoke, and otherwise at once and until the last word is a choke. After any other error it is rejected,
and whatever is done with it later it refuses requests for blocks and for pieces, and changes nothing
for them. -/
theorem requestBlock_effect (run : s.requestBlock index start length limit = (.error e, t)) :
    (Refused e → t = s) ∧
    (e = .choked → t.state = .interestedSent ∧
      (∃ d : Decision index start Chokes s.link.incoming.unread,
        t.link = s.linkBehind index start length d.rest) ∧
      ∀ later, lastWord (t.heardIn later) = some .unchoke → (t.run later).state ≠ .rejected →
        (t.run later).Serves) ∧
    (∀ n m, e = .shortBlock n m →
      ∀ d : Decision index start (Misfit index start length) s.link.incoming.unread,
        t.state = .unchoked ∧ t.link = s.linkBehind index start length d.rest ∧
        ∀ later, lastWord (t.heardIn later) ≠ some .choke → (t.run later).state ≠ .rejected →
          (t.run later).Serves) ∧
    (¬ Refused e → e ≠ .choked →
      ((∃ n m, e = .shortBlock n m) →
        IsEmpty (Decision index start (Misfit index start length) s.link.incoming.unread)) →
      t.state = .rejected ∧ ∀ later, (t.run later).Shut) := by
  have shut (rejected : t.state = .rejected) : t.state = .rejected ∧ ∀ later, (t.run later).Shut :=
    ⟨rejected, fun later => shut_of_rejected (run_rejected later rejected)⟩
  rcases requestBlock_cases index start length limit s with
    ⟨e', refused, eq⟩ | ⟨f, eq⟩ | ⟨unchoked, writes, positive, small, -⟩
  · rw [eq] at run
    cases run
    refine ⟨fun _ => rfl, ?_, ?_, fun sent => absurd refused sent⟩
    · rintro rfl
      cases refused
    · rintro n m rfl
      cases refused
  · rw [eq] at run
    cases run
    exact ⟨nofun, nofun, nofun, fun _ _ _ => shut rfl⟩
  have misfit (d : Decision index start (Misfit index start length) s.link.incoming.unread) :
      (∃ n, e = .shortBlock length n) ∧ t.isUnchoked ∧
        t.link = s.linkBehind index start length d.rest := by
    obtain ⟨n, u, ended, facts⟩ :=
      requestBlock_misfit index start limit unchoked writes positive small d
    cases ended.symm.trans run
    exact ⟨⟨n, rfl⟩, facts⟩
  have usable (d : Decision index start (Misfit index start length) s.link.incoming.unread) :
      t.state = .unchoked ∧ t.link = s.linkBehind index start length d.rest ∧
        ∀ later, lastWord (t.heardIn later) ≠ some .choke → (t.run later).state ≠ .rejected →
          (t.run later).Serves := by
    obtain ⟨-, still, link⟩ := misfit d
    exact ⟨state_of_isUnchoked still, link, fun later =>
      serves_of_coherent (run_coherent later (coherent_unchoked still))⟩
  rcases requestBlock_sent_cases index start limit unchoked writes positive small with
    ⟨data, u, ok⟩ | ⟨⟨d⟩⟩ | ⟨⟨d⟩⟩ | ⟨f, u, failed, rejected⟩
  · cases ok.symm.trans run
  · obtain ⟨u, ended, state, choked, link⟩ :=
      requestBlock_choked index start limit unchoked writes positive small d
    cases ended.symm.trans run
    refine ⟨nofun, fun _ => ⟨state, ⟨d, link⟩, fun later last alive => ?_⟩,
      fun _ _ _ => usable, fun _ other => absurd rfl other⟩
    refine serves_of_coherent (run_coherent later (coherent_choked state choked)) ?_ alive
    rw [lastWord_append, last]
    nofun
  · obtain ⟨⟨n, rfl⟩, -⟩ := misfit d
    exact ⟨nofun, nofun, fun _ _ _ => usable, fun _ _ none => (none ⟨length, n, rfl⟩).elim d⟩
  · cases failed.symm.trans run
    obtain ⟨sent, other⟩ := frameFailure_other length limit f
    exact ⟨fun refused => absurd refused sent, fun choked => absurd choked other,
      fun _ _ _ => usable, fun _ _ _ => shut rejected⟩

/-- A session that was set up, before a block of two bytes, a choke, an unchoke, a block of one byte and
a have without a number. -/
def facingMisfit : Session :=
  ⟨⟨⟨127, 0, 0, 1⟩, 6881⟩, .fresh ⟨framed (pieceBody 0 0 [1, 2]) ++ (framed [0] ++ (framed [1] ++
    (framed (pieceBody 0 0 [42]) ++ framed [4]))), .closed⟩, .unchoked, .zero, false, .unknown, []⟩

/-- Requests for one byte on such a session: the first meets the block of two bytes, the second the
choke. After the unchoke the third returns the byte, and the fourth gives the session up. -/
theorem requestBlock_effect_in_turn :
    let ask : Event := .requestBlock 0 0 1 default
    let s := facingMisfit
    let t := s.after ask
    let u := t.after ask
    let v := (u.after .next).after ask
    let w := v.after ask
    (s.requestBlock 0 0 1 default).1 = .error (.shortBlock 1 2) ∧ t.state = .unchoked ∧
      (t.requestBlock 0 0 1 default).1 = .error .choked ∧ u.state = .interestedSent ∧
      ((u.after .next).requestBlock 0 0 1 default).1 = .ok [42] ∧
      (v.requestBlock 0 0 1 default).1 = .error (.protocol (.malformed ⟨.have, 0⟩)) ∧ w.Shut := by
  intro ask s t u v w
  have first : s.requestBlock 0 0 1 default = (.error (.shortBlock 1 2), t) := by decide +kernel
  have second : t.requestBlock 0 0 1 default = (.error .choked, u) := by decide +kernel
  have fourth : v.requestBlock 0 0 1 default =
      (.error (.protocol (.malformed ⟨.have, 0⟩)), w) := by decide +kernel
  let misfit : Decision 0 0 (Misfit 0 0 1) s.link.incoming.unread :=
    ⟨[], pieceBody 0 0 [1, 2], _, by simp [Without], by decide, ⟨[1, 2], rfl, by decide⟩, rfl⟩
  let block : Delivery 0 0 1 (u.run [.next]).link.incoming.unread :=
    ⟨[], [42], framed [4], by simp [Without], rfl, by decide +kernel⟩
  obtain ⟨-, -, misfits, -⟩ := requestBlock_effect first
  obtain ⟨-, chokes, -⟩ := requestBlock_effect second
  obtain ⟨-, -, -, fatal⟩ := requestBlock_effect fourth
  obtain ⟨state, -, serves⟩ := chokes rfl
  have served := serves [.next] (by decide +kernel) (by decide +kernel) 0 0 1 default (by decide)
    (by decide) (by decide +kernel) block
  refine ⟨congrArg Prod.fst first, (misfits 1 2 rfl misfit).1, congrArg Prod.fst second, state,
    served, congrArg Prod.fst fourth, (fatal nofun nofun nofun).2 []⟩

end Session

end Swarm.Peer
