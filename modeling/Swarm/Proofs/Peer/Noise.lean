import Swarm.Proofs.Peer.Piece

/-!
# Pieces among other messages

A peer may say anything well-formed between the blocks of a piece: all of it is passed over, with the
blocks of other places among it. If the blocks come in order, the piece is put together from them
whatever their size, and the session is left behind the last one.
-/

namespace Swarm.Peer

open Swarm.Net (Ending)
open Swarm.Time (Duration)
open Swarm.Wire

/-- The body of a message that has no say while the block at a place is awaited. -/
inductive Noise (index start : UInt32) : Bytes → Prop where
  | keepAlive :
    Noise index start []
  | unchoke {payload} :
    Noise index start (1 :: payload)
  | interest {id payload} :
    id = 2 ∨ id = 3 →
    Noise index start (id :: payload)
  | have {payload} :
    payload.length = 4 →
    Noise index start (4 :: payload)
  | bitfield {bits} :
    Noise index start (5 :: bits)
  | request {id payload} :
    id = 6 ∨ id = 8 →
    payload.length = 12 →
    Noise index start (id :: payload)
  | piece {index' start' block} :
    ¬ (index' = index ∧ start' = start) →
    Noise index start (pieceBody index' start' block)
  | unknown {id payload} :
    9 ≤ id →
    Noise index start (id :: payload)

/-- From a place in a piece on, the stream brings the blocks of the piece in order, each of them after
any number of frames that are noise while it is awaited; then comes the rest. -/
inductive Brings (index : UInt32) (blockSize : Nat) (piece rest : Bytes) : Nat → Bytes → Prop where
  | done {pos} :
    piece.length ≤ pos →
    Brings index blockSize piece rest pos rest
  | block {pos noise later} :
    pos < piece.length →
    (∀ body ∈ noise, body.length ≤ maxFrame ∧ Noise index (UInt32.ofNat pos) body) →
    Brings index blockSize piece rest (pos + blockSize) later →
    Brings index blockSize piece rest pos (framedAll noise ++
      framed (pieceBody index (UInt32.ofNat pos) ((piece.drop pos).take blockSize)) ++ later)

variable {s s' : Session} {index start : UInt32} {limit : Duration} {ending : Ending}
  {body piece stream rest : Bytes} {bs : List (Nat × Nat)} {answers : List Bytes}
  {config : DownloadConfig} {blockSize k count : Nat}

/-! ## Noise -/

/-- A frame that is noise decides nothing. -/
theorem Noise.passes (noise : Noise index start body) : ¬ Decides index start body := by
  have other {id : UInt8} {payload : Bytes} (fine : WellFormed (id :: payload)) (quiet : id ≠ 0)
      (no : id ≠ 7) : ¬ Decides index start (id :: payload) := by
    rintro (bad | chokes | ⟨block, eq⟩)
    · exact bad fine
    · exact quiet (Option.some.inj chokes)
    · exact no (List.cons.inj eq).1
  -- no kind of noise is malformed, a CHOKE or the block asked for
  cases noise with
  | keepAlive =>
    rintro (bad | chokes | ⟨block, eq⟩)
    · exact bad trivial
    · cases chokes
    · cases eq
  | unchoke | bitfield => exact other (by simp [WellFormed]) (by decide) (by decide)
  | interest two =>
    rcases two with rfl | rfl
    · exact other (by simp [WellFormed]) (by decide) (by decide)
    · exact other (by simp [WellFormed]) (by decide) (by decide)
  | «have» four => exact other (by simp [WellFormed, four]) (by decide) (by decide)
  | request two twelve =>
    rcases two with rfl | rfl
    · exact other (by simp [WellFormed, twelve]) (by decide) (by decide)
    · exact other (by simp [WellFormed, twelve]) (by decide) (by decide)
  | @piece index' start' block elsewhere =>
    have read := readBody_pieceBody index' start' block
    rintro (bad | chokes | ⟨block', eq⟩)
    · obtain ⟨fine, -⟩ | ⟨-, m, broken⟩ := readBody_cases (pieceBody index' start' block)
      · exact bad fine
      · rw [read] at broken
        cases broken
    · cases chokes
    · rw [eq, readBody_pieceBody] at read
      cases read
      exact elsewhere ⟨rfl, rfl⟩
  | @unknown id payload large =>
    have apart {k : UInt8} (small : ¬ 9 ≤ k) : id ≠ k := by
      rintro rfl
      exact small large
    refine other ⟨?_, ?_, ?_⟩ (apart (by decide)) (apart (by decide))
    · exact fun eq => absurd eq (apart (by decide))
    · rintro (eq | eq)
      · exact absurd eq (apart (by decide))
      · exact absurd eq (apart (by decide))
    · exact fun eq => absurd eq (apart (by decide))

/-! ## Blocks that the stream brings -/

/-- What is brought from one block on is delivered block by block, and it is what the piece holds from
there on. -/
lemma Brings.delivered (inside : ∀ j < k + count, j * blockSize < piece.length)
    (enough : piece.length ≤ (k + count) * blockSize)
    (brings : Brings index blockSize piece rest (k * blockSize) stream) :
    ∃ answers, Delivered index
        ((List.range' k count).map (pieceBlock blockSize piece.length)) stream answers rest ∧
      answers.flatten = piece.drop (k * blockSize) := by
  -- one block after the other, each at the place where the one before it ends
  induction count generalizing k stream with
  | zero =>
    cases brings with
    | done => exact ⟨[], .nil, (List.drop_eq_nil_of_le enough).symm⟩
    | block early => exact absurd early (Nat.not_lt.mpr enough)
  | succ count ih =>
    have here : k * blockSize < piece.length := inside k (by omega)
    cases brings with
    | done late => exact absurd here (Nat.not_lt.mpr late)
    | @block _ noise later _ quiet more =>
      rw [← Nat.succ_mul] at more
      obtain ⟨answers, delivered, flatten⟩ := ih (k := k + 1) (fun j hj => inside j (by omega))
        (by rwa [Nat.add_right_comm]) more
      let d : Delivery index (UInt32.ofNat (pieceBlock blockSize piece.length k).1)
          (pieceBlock blockSize piece.length k).2 (framedAll noise ++
            framed (pieceBody index (UInt32.ofNat (k * blockSize))
              ((piece.drop (k * blockSize)).take blockSize)) ++ later) :=
        { bodies := noise
          block := (piece.drop (k * blockSize)).take blockSize
          rest := later
          without := fun body mem => ⟨(quiet body mem).1, (quiet body mem).2.passes⟩
          length_block := by rw [List.length_take, List.length_drop]; rfl
          stream_eq := rfl }
      refine ⟨d.block :: answers, ?_, ?_⟩
      · rw [List.range'_succ, List.map_cons]
        exact .cons d delivered
      · rw [List.flatten_cons, flatten, Nat.succ_mul, ← List.drop_drop]
        exact List.take_append_drop ..

/-! ## Blocks that are asked for -/

/-- Blocks that the stream delivers answer the requests for them, as long as these can be sent, and
the session stays unchoked. -/
theorem Delivered.answered (delivered : Delivered index bs stream answers rest)
    (sizes : ∀ b ∈ bs, 1 ≤ b.2 ∧ b.2 ≤ maxBlock) (unchoked : s.isUnchoked)
    (incoming : s.link.incoming = ⟨stream, ending⟩)
    (writes : ∀ left, s.link.writes = some left → bs.length ≤ left) :
    ∃ s', Answered index limit bs s answers s' ∧ s'.isUnchoked ∧
      s'.link.incoming = ⟨rest, ending⟩ := by
  induction delivered generalizing s with
  | nil => exact ⟨s, .nil, unchoked, incoming⟩
  | @cons b bs _ _ _ d _ ih =>
    obtain ⟨⟨positive, small⟩, others⟩ := List.forall_mem_cons.mp sizes
    have possible : s.link.writes ≠ some 0 := fun none =>
      absurd (writes 0 none) (Nat.not_succ_le_zero bs.length)
    obtain ⟨t, run, still, link⟩ := Session.requestBlock_delivers index (UInt32.ofNat b.1) limit
      unchoked incoming possible positive small d
    -- the write for this block is one of those that were left
    have fewer : ∀ left, t.link.writes = some left → bs.length ≤ left := by
      intro left eq
      rw [link] at eq
      obtain ⟨before, had, rfl⟩ := Option.map_eq_some_iff.mp eq
      exact Nat.le_sub_one_of_lt (writes before had)
    obtain ⟨s', answered, facts⟩ := ih others still (by rw [link]) fewer
    exact ⟨s', .cons run answered, facts⟩

/-- Requests that are answered one after the other are what requesting them in a row does. -/
theorem Answered.requestAll (answered : Answered index limit bs s answers s') (done : List Bytes) :
    s.requestAll index limit done bs = (.ok (done.reverse ++ answers), s') := by
  induction answered generalizing done with
  | nil => rw [Session.requestAll, List.append_nil]
  | @cons _ _ _ answer _ _ _ run _ ih =>
    rw [Session.requestAll, run]
    refine (ih (answer :: done)).trans ?_
    rw [List.reverse_cons, List.append_assoc, List.singleton_append]

namespace Session

/-- A piece is fetched from a stream that brings its blocks in order, whatever their size and whatever
noise stands between them, as long as the requests can be sent. What follows the last block is left,
and the session stays unchoked. -/
theorem downloadPiece_noise (length : piece.length < 2 ^ 32) (positive : 1 ≤ config.blockSize)
    (small : config.blockSize ≤ maxBlock) (unchoked : s.isUnchoked)
    (writes : ∀ left, s.link.writes = some left →
      (pieceBlocks config.blockSize piece.length).length ≤ left)
    (brings : Brings index config.blockSize piece rest 0 s.link.incoming.unread) :
    ∃ s', s.downloadPiece config index piece.length = (.ok piece, s') ∧ s'.isUnchoked ∧
      s'.link.incoming = ⟨rest, s.link.incoming.ending⟩ := by
  have row := row_pieceBlocks positive piece.length
  have sizes : ∀ b ∈ pieceBlocks config.blockSize piece.length, 1 ≤ b.2 ∧ b.2 ≤ maxBlock := by
    intro b mem
    obtain ⟨j, -, rfl⟩ := List.mem_map.mp mem
    exact ⟨(row.mem _ mem).2.1, Nat.le_trans (Nat.min_le_left ..) small⟩
  have inside : ∀ j < 0 + (piece.length + config.blockSize - 1) / config.blockSize,
      j * config.blockSize < piece.length :=
    fun j hj => block_inside positive (by rwa [Nat.zero_add] at hj)
  have enough : piece.length ≤
      (0 + (piece.length + config.blockSize - 1) / config.blockSize) * config.blockSize := by
    rw [Nat.zero_add]
    exact blocks_enough positive piece.length
  rw [← Nat.zero_mul config.blockSize] at brings
  obtain ⟨answers, delivered, whole⟩ := brings.delivered inside enough
  rw [← List.range_eq_range'] at delivered
  obtain ⟨s', answered, still, incoming⟩ :
      ∃ s', Answered index config.blockTimeout (pieceBlocks config.blockSize piece.length) s answers
        s' ∧ s'.isUnchoked ∧ s'.link.incoming = ⟨rest, s.link.incoming.ending⟩ :=
    delivered.answered sizes unchoked rfl writes
  refine ⟨s', ?_, still, incoming⟩
  rw [downloadPiece_eq index s positive length, answered.requestAll []]
  simp only [List.reverse_nil, List.nil_append, whole, Nat.zero_mul, List.drop_zero]

/-- Three bytes come in a block of two and a block of one, with a keep-alive before the first and an
unchoke and the first again before the second. -/
theorem downloadPiece_noise_duplicate :
    let stream : Bytes := [0, 0, 0, 0, 0, 0, 0, 11, 7, 0, 0, 0, 1, 0, 0, 0, 0, 42, 43,
      0, 0, 0, 1, 1, 0, 0, 0, 11, 7, 0, 0, 0, 1, 0, 0, 0, 0, 42, 43,
      0, 0, 0, 10, 7, 0, 0, 0, 1, 0, 0, 0, 2, 44, 9]
    let s : Session :=
      ⟨⟨⟨127, 0, 0, 1⟩, 6881⟩, .fresh ⟨stream, .closed⟩, .unchoked, .zero, false, .unknown, []⟩
    (Brings 1 2 [42, 43, 44] [9] 0 stream ∧ s.isUnchoked) ∧
      ∃ s', s.downloadPiece ⟨2, default⟩ 1 3 = (.ok [42, 43, 44], s') ∧ s'.isUnchoked ∧
        s'.link.incoming = ⟨[9], .closed⟩ := by
  intro stream s
  have last : Brings 1 2 [42, 43, 44] [9] 4 [9] := .done (by decide)
  have duplicate : Noise 1 2 (pieceBody 1 0 [42, 43]) := .piece (by decide)
  have between : ∀ body ∈ [[1], pieceBody 1 0 [42, 43]], body.length ≤ maxFrame ∧ Noise 1 2 body :=
    List.forall_mem_cons.mpr ⟨⟨by decide, .unchoke⟩,
      List.forall_mem_singleton.mpr ⟨by decide, duplicate⟩⟩
  have before : ∀ body ∈ [[]], body.length ≤ maxFrame ∧ Noise 1 0 body :=
    List.forall_mem_singleton.mpr ⟨by decide, .keepAlive⟩
  have second := Brings.block (by decide : 2 < [42, 43, 44].length) between last
  have first := Brings.block (by decide : 0 < [42, 43, 44].length) before second
  have brings : Brings 1 2 [42, 43, 44] [9] 0 stream :=
    cast (congrArg (Brings 1 2 [42, 43, 44] [9] 0) (by decide +kernel)) first
  have fetched : ∃ s', s.downloadPiece ⟨2, default⟩ 1 ([42, 43, 44] : Bytes).length =
      (.ok [42, 43, 44], s') ∧ s'.isUnchoked ∧ s'.link.incoming = ⟨[9], .closed⟩ :=
    downloadPiece_noise (by decide) (by decide) (by decide) rfl nofun brings
  exact ⟨⟨brings, rfl⟩, fetched⟩

end Session

end Swarm.Peer
