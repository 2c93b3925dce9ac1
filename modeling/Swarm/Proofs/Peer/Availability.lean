import Swarm.Proofs.Peer.Reads
import Swarm.Proofs.Wire.Bitfield

/-!
# The pieces that a peer has told of

A session keeps the pieces of the last bitfield that it has read and of the haves after it, or of all
haves if it has read none. What a peer can make it keep is bounded: haves beyond the bitfield, or beyond
the largest one that fits into a frame, are not kept.
-/

namespace Swarm.Peer

open Swarm.Net (Endpoint Link Stream)
open Swarm.Time (Duration)
open Swarm.Wire

/-- The messages that were read in a session. -/
def Session.messages (s : Session) : List Message := s.log.reverse.flatMap said

/-- The pieces of a session are those that its messages tell of, and the bitfields among these fit into
frames. -/
structure Told (s : Session) : Prop where
  eq : s.pieces = s.messages.foldl Bitfield.tell .unknown
  small : ∀ b, .bitfield b ∈ s.messages → b.length < maxFrame

variable {s t : Session} {rs : List Reading}

/-! ## What reads tell -/

/-- What is learned of pieces is what the message tells. -/
lemma Session.learn_pieces (s : Session) (m : Message) : (s.learn m).pieces = s.pieces.tell m := by
  cases m <;> rfl

/-- A bitfield that is read leaves room for its id in the frame. -/
lemma readFrame_bitfield {x y : Stream} {b : Bytes} (read : readFrame x = (.ok (.bitfield b), y)) :
    b.length < maxFrame := by
  have complete : Complete (readFrame x).1 := by
    rw [read]
    exact complete_ok _
  obtain ⟨body, fits, eq, -⟩ := readFrame_complete complete
  rw [read] at eq
  rw [readBody_eq_bitfield.mp eq.symm] at fits
  exact fits

/-- What is read comes after the messages before it. -/
lemma Session.next_messages (s : Session) : s.next.2.messages = s.messages ++ said s.next.1 := by
  rw [messages, s.next_log, List.reverse_cons, List.flatMap_append, List.flatMap_singleton]
  rfl

/-- Only messages tell of pieces, and what they tell is kept. -/
lemma Session.next_pieces (s : Session) :
    s.next.2.pieces = (said s.next.1).foldl Bitfield.tell s.pieces := by
  rcases s.next_cases with ⟨e, rest, -, next⟩ | ⟨m, rest, -, next⟩
  · rw [next]
    rfl
  · rw [next]
    exact learn_pieces (s.behind (.ok m) rest) m

/-- Reading a frame keeps what was told. -/
lemma Told.next (h : Told s) : Told s.next.2 := by
  constructor
  · rw [s.next_pieces, s.next_messages, List.foldl_append, ← h.eq]
  · intro b mem
    rw [s.next_messages, List.mem_append] at mem
    rcases mem with before | now
    · exact h.small b before
    · have read := s.next_readFrame
      rcases one : s.next.1 with e | m
      · rw [one] at now
        cases now
      · rw [one, said, List.mem_singleton] at now
        rw [one, ← now] at read
        exact readFrame_bitfield read

/-- Reads keep what was told, and nothing else tells of pieces. -/
theorem Reads.told (h : Reads s rs t) (told : Told s) : Told t := by
  induction h with
  | nil => exact told
  | next _ ih => exact ih told.next
  | @apart s u _ _ _ _ pieces log ih =>
    have same : u.messages = s.messages := congrArg (·.reverse.flatMap said) log
    apply ih
    constructor
    · rw [pieces, same]
      exact told.eq
    · rw [same]
      exact told.small

namespace Session

/-- Whatever happens to a session keeps what was told. -/
theorem run_told (events : List Event) (h : Told s) : Told (s.run events) := by
  induction events generalizing s with
  | nil => exact h
  | cons event events ih =>
    apply ih
    rcases s.after_cases event with ⟨rs, steps⟩ | ⟨more, ending, rfl⟩
    · exact steps.reads.told h
    · exact ⟨h.eq, h.small⟩

/-- What a session that was set up keeps is told by the messages that it has read. -/
lemma connect_told {peer infoHash peerId limit} {link : Link}
    (ok : connect peer infoHash peerId limit link = .ok s) : Told s := by
  obtain ⟨rs, reads, -⟩ := connect_passage ok
  exact reads.told ⟨rfl, nofun⟩

/-- What a session that was set up keeps of its peer's pieces after any events. If it has read no
bitfield, these are the pieces it has read a have for, below a fixed limit. Otherwise they are those of
the last bitfield, and those it has read a have for since then that the bitfield has room for. What is
kept is as long as the last bitfield, and before the first one no longer than a block; so it always fits
into a frame. Nothing else that is read changes it. -/
theorem run_connect_pieces {peer : Endpoint} {infoHash peerId : Ident} {limit : Duration}
    {link : Link} {opened : Session} (events : List Event)
    (ok : connect peer infoHash peerId limit link = .ok opened) :
    let s := opened.run events
    let read := s.messages
    ((∀ b, .bitfield b ∉ read) →
      s.pieces.bits.length ≤ maxBlock ∧
      ∀ i, s.pieces.has i = true ↔
        i < maxPieces ∧ ∃ piece, .have piece ∈ read ∧ piece.toNat = i) ∧
    (∀ before b later, read = before ++ .bitfield b :: later → (∀ b', .bitfield b' ∉ later) →
      s.pieces.bits.length = b.length ∧
      ∀ i, s.pieces.has i = true ↔
        Bitfield.bitAt b i = true ∨
          i < 8 * b.length ∧ ∃ piece, .have piece ∈ later ∧ piece.toNat = i) ∧
    s.pieces.bits.length ≤ maxFrame - 1 ∧
    ∀ r t, s.next = (r, t) → (∀ b, r ≠ .ok (.bitfield b)) → (∀ piece, r ≠ .ok (.have piece)) →
      t.pieces = s.pieces := by
  intro s read
  have told : Told s := run_told events (connect_told ok)
  have kept : s.pieces = read.foldl Bitfield.tell .unknown := told.eq
  refine ⟨fun none => ?_, fun before b later split none => ?_, ?_, fun r t next other other' => ?_⟩
  · rw [kept]
    simp only [← Bitfield.mem_haves]
    exact Bitfield.foldl_tell_unknown none
  · rw [kept, split]
    simp only [← Bitfield.mem_haves]
    exact Bitfield.foldl_tell_bitfield none before b .unknown
  · rw [kept]
    -- at most one BITFIELD matters, the last one
    rcases Bitfield.exists_last_bitfield read with none | ⟨before, b, later, split, none⟩
    · have short := (Bitfield.foldl_tell_unknown none).1
      rw [maxFrame]
      omega
    · have mem : .bitfield b ∈ read := by
        rw [split]
        exact List.mem_append_right _ List.mem_cons_self
      have small := told.small b mem
      rw [split, (Bitfield.foldl_tell_bitfield none before b .unknown).1]
      omega
  · have learned := s.next_pieces
    rw [next] at learned
    rw [learned]
    -- reading one message tells of pieces through BITFIELD and HAVE alone
    rcases r with e | m
    · rfl
    · cases m with
      | bitfield b => exact absurd rfl (other b)
      | «have» piece => exact absurd rfl (other' piece)
      | _ => rfl

/-- A have is read while the session is set up and another one before a bitfield, which takes the
place of both. Of the two haves after it, one is inside its two bytes. A malformed have is read last. -/
theorem run_connect_pieces_replaced :
    let greeting := (Handshake.plain .zero .zero).bytes
    let haveBody (piece : Nat) : Bytes := 4 :: Bytes.word 4 piece
    let later := framedAll [haveBody 9, [5, 64, 0], haveBody 15, haveBody 16, [4]]
    let link : Link := .fresh ⟨greeting ++ framedAll [haveBody 3, [1]] ++ later, .closed⟩
    let opened : Session := ⟨⟨⟨127, 0, 0, 1⟩, 6881⟩, ⟨⟨later, .closed⟩, greeting ++ [0, 0, 0, 1, 2],
      none⟩, .unchoked, .zero, false, ⟨[16], maxPieces⟩, [.ok .unchoke, .ok (.have 3)]⟩
    let events : List Event := [.next, .next, .requestBlock 0 0 1 default]
    connect ⟨⟨127, 0, 0, 1⟩, 6881⟩ .zero .zero default link = .ok opened ∧
      opened.pieces.has 3 = true ∧
      (opened.run events).pieces.bits.length = 2 ∧
      (opened.run events).pieces.has 15 = true ∧
      ∀ i ∈ [3, 9, 16], (opened.run events).pieces.has i = false := by
  intro greeting haveBody later link opened events
  have ok : connect ⟨⟨127, 0, 0, 1⟩, 6881⟩ .zero .zero default link = .ok opened := by
    decide +kernel
  obtain ⟨unheralded, -⟩ := run_connect_pieces [] ok
  obtain ⟨-, heralded, -⟩ := run_connect_pieces events ok
  have first : (opened.run []).messages = [.have 3, .unchoke] := by decide +kernel
  have split : (opened.run events).messages =
      [.have 3, .unchoke, .have 9] ++ .bitfield [64, 0] :: [.have 15, .have 16] := by
    decide +kernel
  rw [first] at unheralded
  obtain ⟨-, before⟩ := unheralded (by simp)
  obtain ⟨length, told⟩ := heralded _ _ _ split (by simp)
  simp only [← Bitfield.mem_haves] at before told
  refine ⟨ok, (before 3).mpr (by decide), length, (told 15).mpr (by decide), fun i mem => ?_⟩
  rw [← Bool.not_eq_true, told]
  revert i
  decide

end Session

end Swarm.Peer
