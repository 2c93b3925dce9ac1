import Swarm.Peer.Download
import Swarm.Proofs.Peer.Listening

/-!
# Requesting a block

The answer to a request is decided by the first frame that is malformed, chokes, or brings a block
for the place asked for, or by where the stream breaks. All frames before it are passed over, and the
session stays unchoked over them.
-/

namespace Swarm.Peer

open Swarm.Net (Ending Stream)
open Swarm.Time (Duration)
open Swarm.Wire

/-- The body is malformed, chokes, or is that of a block for this place. -/
def Decides (index start : UInt32) (body : Bytes) : Prop :=
  ¬ WellFormed body ∨ Chokes body ∨ ∃ block, body = pieceBody index start block

/-- Frames that decide nothing, and then the block that was asked for. -/
structure Delivery (index start : UInt32) (length : Nat) (stream : Bytes) where
  bodies : List Bytes
  block : Bytes
  rest : Bytes
  without : Without (Decides index start) bodies
  length_block : block.length = length
  stream_eq : stream = framedAll bodies ++ framed (pieceBody index start block) ++ rest

/-- The stream begins with what fails a request, and this is the error. -/
inductive Refusal (index start : UInt32) (length : Nat) : Bytes → DownloadError → Prop where
  | choke {body rest} :
    body.length ≤ maxFrame →
    Chokes body →
    Refusal index start length (framed body ++ rest) .choked
  | size {block rest} :
    (pieceBody index start block).length ≤ maxFrame →
    block.length ≠ length →
    Refusal index start length (framed (pieceBody index start block) ++ rest)
      (.shortBlock length block.length)
  | malformed {body rest m} :
    body.length ≤ maxFrame →
    ¬ WellFormed body →
    readBody body = .error (.malformed m) →
    Refusal index start length (framed body ++ rest) (.protocol (.malformed m))
  | oversized {n rest} :
    maxFrame < n →
    n < 2 ^ 32 →
    Refusal index start length (Bytes.word 4 n ++ rest) (.protocol (.tooLarge n))
  | cut {n part} :
    n ≤ maxFrame →
    part.length < n →
    Refusal index start length (Bytes.word 4 n ++ part) (.shortBlock length part.length)
  | ended {b} :
    b.length < 4 →
    Refusal index start length b (.receive .endOfFile)

variable {s : Session} {index start : UInt32} {length : Nat} {body rest tail : Bytes}
  {bodies : List Bytes} {ending : Ending}

/-- A message brings a block for a place only as a piece for that place. -/
lemma blockAt?_eq_some {m : Message} {block : Bytes} :
    m.blockAt? index start = some block ↔ m = .piece index start block := by
  cases m with
  | piece i s b =>
    rw [Message.blockAt?]
    split
    · rename_i eq
      obtain ⟨rfl, rfl⟩ := eq
      simp
    · rename_i ne
      simp only [reduceCtorEq, Message.piece.injEq, false_iff]
      exact fun eq => ne ⟨eq.1, eq.2.1⟩
  | _ => simp [Message.blockAt?]

/-- Broken frames refuse a request. -/
lemma Refusal.of_broken {b e} (broken : Broken .closed b e rest) (limit : Duration) :
    Refusal index start length b (frameFailure length limit e) := by
  cases broken with
  | ended short => exact .ended short
  | oversized large small => exact .oversized large small
  | cut fits short => exact .cut fits short

/-- A stream delivers the block or fails the request. -/
theorem delivered_or_refused (index start : UInt32) (length : Nat) (stream : Bytes) :
    Nonempty (Delivery index start length stream) ∨ ∃ bodies tail e,
      Without (Decides index start) bodies ∧ stream = framedAll bodies ++ tail ∧
        Refusal index start length tail e := by
  obtain ⟨bodies, tail, rfl, without, stop⟩ := exists_frames .closed (Decides index start) stream
  rcases stop with ⟨body, rest, fits, decides, rfl⟩ | ⟨e, rest, broken⟩
  · rcases decides with bad | chokes | ⟨block, rfl⟩
    · obtain ⟨fine, -⟩ | ⟨-, m, read⟩ := readBody_cases body
      · exact absurd fine bad
      · exact .inr ⟨bodies, _, _, without, rfl, .malformed fits bad read⟩
    · exact .inr ⟨bodies, _, _, without, rfl, .choke fits chokes⟩
    · by_cases same : block.length = length
      · exact .inl ⟨bodies, block, rest, without, same, by rw [List.append_assoc]⟩
      · exact .inr ⟨bodies, _, _, without, rfl, .size fits same⟩
  · exact .inr ⟨bodies, tail, _, without, rfl, .of_broken broken default⟩

/-- What decides nothing is a message that neither chokes nor brings the block. -/
lemma read_of_not_decides (h : ¬ Decides index start body) :
    ∃ m, readBody body = .ok m ∧ m ≠ .choke ∧ m.blockAt? index start = none := by
  rw [Decides, not_or, not_or, not_not] at h
  obtain ⟨fine, noChoke, noBlock⟩ := h
  obtain ⟨-, m, read⟩ | ⟨bad, -⟩ := readBody_cases body
  · refine ⟨m, read, ?_, Option.eq_none_iff_forall_ne_some.mpr fun block brings => ?_⟩
    · rintro rfl
      exact noChoke (readBody_eq_choke.mp read)
    · rw [blockAt?_eq_some.mp brings] at read
      exact noBlock ⟨block, eq_pieceBody read⟩
  · exact absurd fine bad

namespace Session

/-! ## Waiting for the block -/

/-- A frame that decides nothing is passed over. -/
lemma awaitBlock_passes (limit) {x fuel} (fits : body.length ≤ maxFrame)
    (passes : ¬ Decides index start body) (h : s.link.incoming = ⟨framed body ++ rest, ending⟩) :
    s.awaitBlock index start length limit (x :: fuel) =
      ((s.behind (readBody body) ⟨rest, ending⟩).hear body).awaitBlock index start length limit
        fuel := by
  obtain ⟨m, read, noChoke, noBlock⟩ := read_of_not_decides passes
  rw [awaitBlock, next_framed fits h, read]
  simp only [if_neg noChoke, noBlock]

/-- A body that does not decide a request leaves the session unchoked. -/
lemma hear_isUnchoked (unchoked : s.isUnchoked) (passes : ¬ Decides index start body) :
    (s.hear body).isUnchoked := by
  obtain ⟨m, read, noChoke, -⟩ := read_of_not_decides passes
  rw [hear_read read]
  exact learn_isUnchoked unchoked noChoke

/-- Frames that decide nothing are passed over, if the fuel is enough for them, and the session
stays unchoked. -/
lemma awaitBlock_without (length limit) {fuel} (without : Without (Decides index start) bodies)
    (enough : bodies.length ≤ fuel.length) (unchoked : s.isUnchoked)
    (h : s.link.incoming = ⟨framedAll bodies ++ tail, ending⟩) :
    ∃ fuel', ∃ s' : Session, s.awaitBlock index start length limit fuel =
      s'.awaitBlock index start length limit fuel' ∧ s'.isUnchoked ∧
      s'.link = { s.link with incoming := ⟨tail, ending⟩ } := by
  induction bodies generalizing s fuel with
  | nil =>
    have unread : s.link.incoming = ⟨tail, ending⟩ := h
    exact ⟨fuel, s, rfl, unchoked, by rw [← unread]⟩
  | cons body bodies ih =>
    cases fuel with
    | nil => simp at enough
    | cons x fuel =>
      obtain ⟨⟨fits, passes⟩, others⟩ := List.forall_mem_cons.mp without
      rw [framedAll_cons, List.append_assoc] at h
      rw [awaitBlock_passes limit fits passes h]
      have still : (s.behind (readBody body) ⟨framedAll bodies ++ tail, ending⟩).isUnchoked := unchoked
      obtain ⟨fuel', s', run, still', link⟩ := ih others (Nat.le_of_succ_le_succ enough)
        (hear_isUnchoked still passes) (by rw [hear_link, behind])
      exact ⟨fuel', s', run, still', by simpa [behind] using link⟩

/-- The block for the place asked for ends the wait. -/
lemma awaitBlock_block (length limit fuel) {block : Bytes}
    (fits : (pieceBody index start block).length ≤ maxFrame)
    (h : s.link.incoming = ⟨framed (pieceBody index start block) ++ rest, ending⟩) :
    s.awaitBlock index start length limit fuel =
      (if block.length = length then .ok block else .error (.shortBlock length block.length),
        s.behind (.ok (.piece index start block)) ⟨rest, ending⟩) := by
  have read := readBody_pieceBody index start block
  rw [awaitBlock.eq_def, next_framed fits h, read, hear_read read]
  simp only [reduceCtorEq, if_false, blockAt?_eq_some.mpr rfl, learn]
  split <;> rfl

/-- Where a stream fails the request, the wait ends with that error. -/
lemma awaitBlock_refused (limit fuel) {e} (refusal : Refusal index start length tail e)
    (h : s.link.incoming = ⟨tail, .closed⟩) :
    (s.awaitBlock index start length limit fuel).1 = .error e := by
  cases refusal with
  | choke fits chokes =>
    rw [awaitBlock.eq_def, next_framed fits h, readBody_eq_choke.mpr chokes]
    rfl
  | size fits other =>
    rw [awaitBlock_block length limit fuel fits h, if_neg other]
  | malformed fits _ read =>
    rw [awaitBlock.eq_def, next_framed fits h, read]
    rfl
  | oversized large small =>
    rw [awaitBlock.eq_def, next_broken (.oversized large small) h]
    rfl
  | cut fits short =>
    rw [awaitBlock.eq_def, next_broken (.cut fits short) h]
    rfl
  | ended short =>
    rw [awaitBlock.eq_def, next_broken (.ended short) h]
    rfl

/-- Waiting for a block sends nothing. -/
lemma awaitBlock_sent (index start length limit fuel) (s : Session) :
    (s.awaitBlock index start length limit fuel).2.link.sent = s.link.sent := by
  fun_induction awaitBlock index start length limit fuel s with
  | case1 fuel s e s' read =>
    show s'.link.sent = s.link.sent
    exact next_sent read
  | case5 s m s' read =>
    show s'.link.sent = s.link.sent
    exact next_sent read
  | case6 s m s' read _ _ x fuel ih => exact ih.trans (next_sent read)
  | _ => exact next_sent ‹_›

/-! ## The whole request -/

section
variable (index start : UInt32) (limit : Duration) (unchoked : s.isUnchoked)
  (incoming : s.link.incoming = ⟨u, ending⟩) (writes : s.link.writes ≠ some 0)
  (positive : 1 ≤ length) (small : length ≤ maxBlock)

include unchoked writes positive small in
/-- A request that makes sense is sent, and then it is waited for the block. -/
lemma requestBlock_open :
    s.requestBlock index start length limit =
      (s.sending (Message.request index start (UInt32.ofNat length)).frame).awaitBlock index start
        length limit s.link.incoming.unread := by
  have sensible : ¬ (length = 0 ∨ maxBlock < length) := by omega
  have allowed : ¬ (!s.isUnchoked) = true := by simp [unchoked]
  rw [requestBlock, if_neg allowed, if_neg sensible, send_of_writes writes]
  rfl

include small in
/-- The request has the number 6 and holds the place and the length. -/
lemma request_frame :
    (Message.request index start (UInt32.ofNat length)).frame =
      Bytes.word 4 13 ++ [6] ++ Bytes.word 4 index.toNat ++ Bytes.word 4 start.toNat ++
        Bytes.word 4 length := by
  have same : (UInt32.ofNat length).toNat = length := by
    rw [UInt32.toNat_ofNat']
    exact Nat.mod_eq_of_lt (Nat.lt_of_le_of_lt small (by decide))
  simp only [Message.frame, Message.payload, Message.triple, same, ← List.append_assoc]
  rfl

include unchoked incoming writes positive small in
/-- After frames that decide nothing, the request is still waited for and the session unchoked. -/
lemma requestBlock_without (without : Without (Decides index start) bodies)
    (eq : u = framedAll bodies ++ tail) :
    ∃ fuel, ∃ s' : Session, s.requestBlock index start length limit =
      s'.awaitBlock index start length limit fuel ∧ s'.isUnchoked ∧
      s'.link = { (s.sending (Message.request index start (UInt32.ofNat length)).frame).link with
        incoming := ⟨tail, ending⟩ } := by
  subst eq
  have enough : bodies.length ≤ s.link.incoming.unread.length := by
    rw [incoming]
    exact length_le_framedAll bodies tail
  rw [requestBlock_open index start limit unchoked writes positive small]
  exact awaitBlock_without length limit without enough
    (s := s.sending (Message.request index start (UInt32.ofNat length)).frame) unchoked incoming

include unchoked incoming writes positive small in
/-- A stream that delivers the block is read up to its end, and the session stays unchoked. -/
lemma requestBlock_delivers (d : Delivery index start length u) :
    ∃ s', s.requestBlock index start length limit = (.ok d.block, s') ∧ s'.isUnchoked ∧
      s'.link = { (s.sending (Message.request index start (UInt32.ofNat length)).frame).link with
        incoming := ⟨d.rest, ending⟩ } := by
  have fits : (pieceBody index start d.block).length ≤ maxFrame := by
    simp only [pieceBody, List.length_append, List.length_cons, Bytes.length_word, d.length_block,
      maxFrame]
    omega
  obtain ⟨fuel, s', run, still', link⟩ := requestBlock_without index start limit unchoked incoming
    writes positive small d.without (d.stream_eq.trans (List.append_assoc ..))
  rw [run, awaitBlock_block length limit fuel fits (by rw [link]), if_pos d.length_block]
  exact ⟨_, rfl, still', by rw [behind, link]⟩

end

section
variable (index start : UInt32) (limit : Duration) (unchoked : s.isUnchoked)
  (incoming : s.link.incoming = ⟨u, .closed⟩) (writes : s.link.writes ≠ some 0)
  (positive : 1 ≤ length) (small : length ≤ maxBlock)
include unchoked incoming writes positive small

/-- A request that is delivered yields the block and leaves the rest of the stream unread. -/
lemma requestBlock_delivery (d : Delivery index start length u) :
    ∃ s', s.requestBlock index start length limit = (.ok d.block, s') ∧
      s'.link.incoming = ⟨d.rest, .closed⟩ ∧ s'.isUnchoked := by
  obtain ⟨s', run, still', link⟩ :=
    requestBlock_delivers index start limit unchoked incoming writes positive small d
  exact ⟨s', run, by rw [link], still'⟩

/-- A request that is refused ends with that error. -/
lemma requestBlock_refusal {e} (without : Without (Decides index start) bodies)
    (eq : u = framedAll bodies ++ tail) (refusal : Refusal index start length tail e) :
    (s.requestBlock index start length limit).1 = .error e := by
  obtain ⟨fuel, s', run, -, link⟩ := requestBlock_without index start limit unchoked incoming
    writes positive small without eq
  rw [run, awaitBlock_refused limit fuel refusal (by rw [link])]

end

/-- With a peer that closes its side in the end, a request on an unchoked session returns a block
exactly if the stream delivers it, and then leaves what follows and keeps the session unchoked; it
fails exactly if a frame before refuses it, with the error for that frame. It sends one message. -/
theorem requestBlock_closed {length : Nat} {u : Bytes} (index start : UInt32) (limit : Duration)
    (unchoked : s.isUnchoked) (incoming : s.link.incoming = ⟨u, .closed⟩)
    (writes : s.link.writes ≠ some 0) (positive : 1 ≤ length) (small : length ≤ maxBlock) :
    let outcome := s.requestBlock index start length limit
    (∀ data, outcome.1 = .ok data ↔ ∃ d : Delivery index start length u, d.block = data) ∧
      (∀ d : Delivery index start length u,
        outcome.2.link.incoming = ⟨d.rest, .closed⟩ ∧ outcome.2.isUnchoked) ∧
      (∀ e, outcome.1 = .error e ↔ ∃ bodies tail, Without (Decides index start) bodies ∧
        u = framedAll bodies ++ tail ∧ Refusal index start length tail e) ∧
      outcome.2.link.sent = s.link.sent ++ (Bytes.word 4 13 ++ [6] ++
        Bytes.word 4 index.toNat ++ Bytes.word 4 start.toNat ++ Bytes.word 4 length) := by
  intro outcome
  have delivers (d : Delivery index start length u) : ∃ s', outcome = (.ok d.block, s') ∧
      s'.link.incoming = ⟨d.rest, .closed⟩ ∧ s'.isUnchoked :=
    requestBlock_delivery index start limit unchoked incoming writes positive small d
  have refuses {bodies tail e} (without : Without (Decides index start) bodies)
      (eq : u = framedAll bodies ++ tail) (refusal : Refusal index start length tail e) :
      outcome.1 = .error e :=
    requestBlock_refusal index start limit unchoked incoming writes positive small without eq
      refusal
  refine ⟨fun data => ⟨fun ok => ?_, ?_⟩, fun d => ?_, fun e => ⟨fun failed => ?_, ?_⟩, ?_⟩
  · rcases delivered_or_refused index start length u with
      ⟨⟨d⟩⟩ | ⟨bodies, tail, e, without, eq, refusal⟩
    · obtain ⟨s', run, -⟩ := delivers d
      rw [run] at ok
      cases ok
      exact ⟨d, rfl⟩
    · rw [refuses without eq refusal] at ok
      cases ok
  · rintro ⟨d, rfl⟩
    obtain ⟨s', run, -⟩ := delivers d
    rw [run]
  · obtain ⟨s', run, facts⟩ := delivers d
    rw [run]
    exact facts
  · rcases delivered_or_refused index start length u with
      ⟨⟨d⟩⟩ | ⟨bodies, tail, e', without, eq, refusal⟩
    · obtain ⟨s', run, -⟩ := delivers d
      rw [run] at failed
      cases failed
    · rw [refuses without eq refusal] at failed
      cases failed
      exact ⟨bodies, tail, without, eq, refusal⟩
  · rintro ⟨bodies, tail, without, eq, refusal⟩
    exact refuses without eq refusal
  · simp only [outcome]
    rw [requestBlock_open index start limit unchoked writes positive small, awaitBlock_sent,
      ← request_frame index start small]
    rfl

/-- A block comes after a have, and a byte is left after it. -/
theorem requestBlock_closed_after_have :
    let stream : Bytes := [0, 0, 0, 5, 4, 0, 0, 0, 3, 0, 0, 0, 10, 7, 0, 0, 0, 1, 0, 0, 0, 0, 42, 9]
    let s : Session :=
      ⟨⟨⟨127, 0, 0, 1⟩, 6881⟩, .fresh ⟨stream, .closed⟩, .unchoked, .zero, false, .unknown, []⟩
    s.isUnchoked ∧ (s.requestBlock 1 0 1 default).1 = .ok [42] ∧
      (s.requestBlock 1 0 1 default).2.link.incoming = ⟨[9], .closed⟩ := by
  intro stream s
  have passes : ¬ Decides 1 0 [4, 0, 0, 0, 3] := by
    rintro (bad | chokes | ⟨block, eq⟩)
    · exact bad (by simp [WellFormed])
    · cases chokes
    · simp [pieceBody] at eq
  let d : Delivery 1 0 1 stream :=
    ⟨[[4, 0, 0, 0, 3]], [42], [9], by simp [Without, passes, maxFrame], rfl, rfl⟩
  obtain ⟨delivered, left, -⟩ := requestBlock_closed (s := s) 1 0 default rfl rfl (by decide)
    (Nat.le_refl 1) (by decide)
  exact ⟨rfl, (delivered [42]).mpr ⟨d, rfl⟩, (left d).1⟩

end Session

end Swarm.Peer
