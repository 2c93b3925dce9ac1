import Swarm.Client.Config
import Swarm.Proofs.Peer.Piece
import Swarm.Proofs.Wire.Messages

/-!
# Limits of requests

Three limits keep a download going: that of the command line for the size of a block, that of a request
for the block it asks for, and that of a frame for being read. With the settings of a command line that
is admitted, every request for a piece is within all three, the last and shorter one included: it is never
refused as senseless, and the frame that answers it is never too large to be read.
-/

namespace Swarm.Peer

open Swarm.Time (Duration)
open Swarm.Wire

/-- A part of a piece that is asked for: where it begins, and its length. -/
structure Part where
  start : UInt32
  length : UInt32

/-- The frame that asks for a part of a piece. -/
def Part.request (index : UInt32) (p : Part) : Bytes :=
  (Message.request index p.start p.length).frame

/-- The part has at least one byte, and no more than a limit. -/
structure Part.Within (most : Nat) (p : Part) : Prop where
  positive : 1 ≤ p.length.toNat
  small : p.length.toNat ≤ most

/-- What was sent between two states of a session is requests for parts within a limit. -/
def AsksWithin (most : Nat) (index : UInt32) (s s' : Session) : Prop :=
  ∃ asked : List Part, s'.link.sent = s.link.sent ++ asked.flatMap (Part.request index) ∧
    ∀ p ∈ asked, p.Within most

variable {index start : UInt32} {length most : Nat} {limit : Duration} {s s' s'' : Session}

/-- A piece with no more than the largest block fits in a frame. -/
lemma piece_writable {block : Bytes} (small : block.length ≤ maxBlock) :
    (Message.piece index start block).Writable := by
  have size : (Message.piece index start block).body.length = block.length + 9 := by
    simp only [Message.body, Message.payload, Message.id?, Option.toList_some, List.length_append,
      List.length_cons, Bytes.length_word, List.length_nil]
    omega
  have fits : block.length + 9 ≤ maxFrame := Nat.add_le_add_right small 9
  have counted : (Message.piece index start block).body.length < 2 ^ 32 := by
    rw [size]
    exact Nat.lt_of_le_of_lt fits (by decide)
  refine ⟨counted, ?_, fun id payload eq => by cases eq⟩
  rw [Message.toNat_length counted, size]
  exact fits

/-! ## Requests in a row -/

namespace AsksWithin

/-- Where nothing is sent, nothing is asked for. -/
lemma of_unsent (h : s'.link.sent = s.link.sent) : AsksWithin most index s s' := by
  refine ⟨[], ?_, nofun⟩
  rw [h, List.flatMap_nil, List.append_nil]

/-- One request for a part within the limits keeps within them. -/
lemma of_request {p : Part} (within : p.Within most)
    (h : s'.link.sent = s.link.sent ++ p.request index) : AsksWithin most index s s' := by
  refine ⟨[p], ?_, List.forall_mem_singleton.mpr within⟩
  rw [h, List.flatMap_singleton]

/-- What comes after one another keeps within the limits if each part does. -/
lemma trans (h : AsksWithin most index s s') (h' : AsksWithin most index s' s'') :
    AsksWithin most index s s'' := by
  obtain ⟨asked, sent, within⟩ := h
  obtain ⟨asked', sent', within'⟩ := h'
  refine ⟨asked ++ asked', ?_, List.forall_mem_append.mpr ⟨within, within'⟩⟩
  rw [sent', sent, List.flatMap_append, List.append_assoc]

end AsksWithin

namespace Session

/-! ## One request -/

/-- Waiting for a block never ends with a request being refused. -/
lemma awaitBlock_ne_invalid (index start length limit fuel) (s : Session) (r : InvalidRequest) :
    (s.awaitBlock index start length limit fuel).1 ≠ .error (.invalidRequest r) := by
  fun_induction awaitBlock index start length limit fuel s with
  | case1 _ _ e =>
    intro eq
    cases e <;> cases eq
  | case6 _ _ _ _ _ _ _ _ ih => exact ih
  | _ =>
    intro eq
    cases eq

/-- A request for a block that is not empty and not too large makes sense, whatever comes of it. -/
lemma requestBlock_ne_invalid (index start : UInt32) (limit : Duration) (s : Session)
    (positive : 1 ≤ length) (small : length ≤ maxBlock) (r : InvalidRequest) :
    (s.requestBlock index start length limit).1 ≠ .error (.invalidRequest r) := by
  have sensible : ¬ (length = 0 ∨ maxBlock < length) := by omega
  rw [requestBlock, if_neg sensible]
  by_cases choked : (!s.isUnchoked) = true
  · rw [if_pos choked]
    intro eq
    cases eq
  · rw [if_neg choked]
    cases s.send (.request index start (UInt32.ofNat length)) with
    | error f =>
      intro eq
      cases eq
    | ok s => exact awaitBlock_ne_invalid index start length limit _ s r

/-- A block within the limits is asked for within them. -/
lemma requestBlock_asksWithin (index start : UInt32) (limit : Duration) (s : Session)
    (positive : 1 ≤ length) (small : length ≤ most) (counted : most < 2 ^ 32) :
    AsksWithin most index s (s.requestBlock index start length limit).2 := by
  have same : (UInt32.ofNat length).toNat = length := by
    rw [UInt32.toNat_ofNat']
    exact Nat.mod_eq_of_lt (Nat.lt_of_le_of_lt small counted)
  have within : Part.Within most ⟨start, UInt32.ofNat length⟩ :=
    ⟨positive.trans_eq same.symm, same.trans_le small⟩
  rcases requestBlock_sent index start length limit s with unsent | ⟨-, sent⟩
  · exact .of_unsent unsent
  · exact .of_request within sent

/-! ## The blocks of a piece -/

variable {config : DownloadConfig} {pieceLength : Nat}

/-- Requests in a row make sense if each does, and none is for more than the largest of them. -/
lemma requestAll_within {most : Nat} (small : most ≤ maxBlock) (index : UInt32) (limit : Duration)
    (done : List Bytes) (bs : List (Nat × Nat)) (s : Session)
    (sizes : ∀ b ∈ bs, 1 ≤ b.2 ∧ b.2 ≤ most) :
    let outcome := s.requestAll index limit done bs
    (∀ r, outcome.1 ≠ .error (.invalidRequest r)) ∧ AsksWithin most index s outcome.2 := by
  induction bs generalizing done s with
  | nil => exact ⟨nofun, .of_unsent rfl⟩
  | cons block bs ih =>
    obtain ⟨⟨least, greatest⟩, others⟩ := List.forall_mem_cons.mp sizes
    rw [requestAll]
    have sensible := requestBlock_ne_invalid index (UInt32.ofNat block.1) limit s least
      (Nat.le_trans greatest small)
    have asks := requestBlock_asksWithin index (UInt32.ofNat block.1) limit s least greatest
      (Nat.lt_of_le_of_lt small (by decide))
    rcases run : s.requestBlock index (UInt32.ofNat block.1) block.2 limit with ⟨e | data, t⟩
    · rw [run] at sensible asks
      exact ⟨fun r eq => sensible r (congrArg _ (Except.error.inj eq)), asks⟩
    · rw [run] at asks
      obtain ⟨sensible', asks'⟩ := ih (data :: done) t others
      exact ⟨sensible', asks.trans asks'⟩

/-- With a size of blocks within the limit, the requests for a piece make sense, and none is for more
than that size. -/
lemma downloadPiece_within (positive : 1 ≤ config.blockSize) (small : config.blockSize ≤ maxBlock)
    (index : UInt32) (s : Session) (fits : pieceLength < 2 ^ 32) :
    (∀ r, (s.downloadPiece config index pieceLength).1 ≠ .error (.invalidRequest r)) ∧
      AsksWithin config.blockSize index s (s.downloadPiece config index pieceLength).2 := by
  have row := row_pieceBlocks positive pieceLength
  have sizes : ∀ b ∈ pieceBlocks config.blockSize pieceLength, 1 ≤ b.2 ∧ b.2 ≤ config.blockSize := by
    intro b mem
    obtain ⟨j, -, rfl⟩ := List.mem_map.mp mem
    exact ⟨(row.mem _ mem).2.1, Nat.min_le_left ..⟩
  have within := requestAll_within small index config.blockTimeout [] _ s sizes
  rw [downloadPiece_eq index s positive fits]
  rcases run : s.requestAll index config.blockTimeout []
    (pieceBlocks config.blockSize pieceLength) with ⟨e | blocks, t⟩
  · rw [run] at within
    exact ⟨fun r eq => within.1 r (congrArg _ (Except.error.inj eq)), within.2⟩
  · rw [run] at within
    exact ⟨nofun, within.2⟩

/-- A piece whose length does not fit in 32 bits is refused, and nothing is sent. -/
lemma downloadPiece_large (positive : 1 ≤ config.blockSize) (index : UInt32) (s : Session)
    (large : 2 ^ 32 ≤ pieceLength) :
    s.downloadPiece config index pieceLength =
      (.error (.invalidRequest (.pieceLength pieceLength)), s) := by
  have refused : UInt32.size ≤ pieceLength := large
  rw [downloadPiece, dif_neg (Nat.ne_of_gt positive), if_pos refused]

end Session

end Swarm.Peer

namespace Swarm.Client

open Swarm.Peer
open Swarm.Wire

/-- The settings that are admitted have a size of blocks within the limit. -/
lemma Config.blockSize_le {c : Config} (valid : c.problem? = none) :
    1 ≤ c.download.blockSize ∧ c.download.blockSize ≤ maxBlockSize := by
  revert valid
  fun_cases Config.problem? c with
  | case9 _ _ sensible =>
    intro
    omega
  | _ => nofun

/-- With the settings of a command line that is admitted, whatever the session and whatever the peer
sends, a piece of less than 2³² bytes is never an invalid request: all that is sent is requests for
one byte to the largest block, and the frame that answers one of them is read. A larger piece is
refused, and the session stays as it was. -/
theorem downloadPiece_limits {o : Options} (valid : (Config.ofOptions o).problem? = none)
    (s : Session) (index : UInt32) (pieceLength : Nat) :
    let config := (Config.ofOptions o).download
    let outcome := s.downloadPiece config index pieceLength
    (pieceLength < 2 ^ 32 → (∀ r, outcome.1 ≠ .error (.invalidRequest r)) ∧
      ∃ asked : List Part, outcome.2.link.sent = s.link.sent ++ asked.flatMap (Part.request index) ∧
        ∀ p ∈ asked, 1 ≤ p.length.toNat ∧ p.length.toNat ≤ maxBlockSize ∧
          ∀ block rest ending, block.length = p.length.toNat →
            readFrame ⟨(Message.piece index p.start block).frame ++ rest, ending⟩ =
              (.ok (.piece index p.start block), ⟨rest, ending⟩)) ∧
    (2 ^ 32 ≤ pieceLength →
      outcome = (.error (.invalidRequest (.pieceLength pieceLength)), s)) := by
  intro config outcome
  obtain ⟨positive, admitted⟩ := Config.blockSize_le valid
  have small : config.blockSize ≤ maxBlock := Nat.le_trans admitted (by decide)
  refine ⟨fun fits => ?_, Session.downloadPiece_large positive index s⟩
  obtain ⟨sensible, asked, sent, within⟩ :=
    Session.downloadPiece_within positive small index s fits
  refine ⟨sensible, asked, sent, fun p mem => ?_⟩
  obtain ⟨least, greatest⟩ := within p mem
  refine ⟨least, Nat.le_trans greatest admitted, fun block rest ending answers => ?_⟩
  have writable : (Message.piece index p.start block).Writable :=
    piece_writable (Nat.le_trans (Nat.le_of_eq answers) (Nat.le_trans greatest small))
  exact writable.readFrame rest ending

/-- The largest block and the largest piece, with a peer that has closed; and a piece that is larger by
one byte. -/
theorem downloadPiece_limits_largest :
    let o : Options := ⟨"file", [(.blockSize, 131072)], []⟩
    let config := (Config.ofOptions o).download
    let s : Session :=
      ⟨⟨⟨127, 0, 0, 1⟩, 6881⟩, .fresh ⟨[], .closed⟩, .unchoked, .zero, false, .unknown, []⟩
    (Config.ofOptions o).problem? = none ∧
      (s.downloadPiece config 1 4294967295).2.link.sent = (Message.request 1 0 131072).frame ∧
      (∀ r, (s.downloadPiece config 1 4294967295).1 ≠ .error (.invalidRequest r)) ∧
      s.downloadPiece config 1 4294967296 =
        (.error (.invalidRequest (.pieceLength 4294967296)), s) := by
  intro o config s
  have valid : (Config.ofOptions o).problem? = none := by decide +kernel
  refine ⟨valid, by decide +kernel, ?_, ?_⟩
  · exact ((downloadPiece_limits valid s 1 4294967295).1 (by decide)).1
  · exact (downloadPiece_limits valid s 1 4294967296).2 (by decide)

end Swarm.Client
