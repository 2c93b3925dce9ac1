import Swarm.Proofs.Peer.Answer

/-!
# Fetching a piece

A piece is asked for in blocks that tile it. The requests that go out are the first of these blocks, in
order; a piece is returned only if all were sent and the stream has delivered each, and then every
block stands in it at its place. After a request that fails nothing more is asked for.
-/

namespace Swarm.Peer

open Swarm.Time (Duration)
open Swarm.Wire

/-- Requests for blocks, one after the other, up to the first that fails. The blocks so far are kept in
reverse. -/
def Session.requestAll (index : UInt32) (limit : Duration) (done : List Bytes) :
    List (Nat × Nat) → Session → Except DownloadError (List Bytes) × Session
  | [], s => (.ok done.reverse, s)
  | b :: bs, s =>
    match s.requestBlock index (UInt32.ofNat b.1) b.2 limit with
    | (.error e, s) => (.error e, s)
    | (.ok block, s) => requestAll index limit (block :: done) bs s

/-! ## The blocks of a piece -/

/-- The block with the number `k`: where it begins in the piece, and its length. -/
def pieceBlock (blockSize pieceLength k : Nat) : Nat × Nat :=
  (k * blockSize, min blockSize (pieceLength - k * blockSize))

/-- The blocks of a piece, in order. -/
def pieceBlocks (blockSize pieceLength : Nat) : List (Nat × Nat) :=
  (List.range ((pieceLength + blockSize - 1) / blockSize)).map (pieceBlock blockSize pieceLength)

/-- The blocks follow one another from `pos` to `stop`, and none is empty. -/
inductive Row : (pos stop : Nat) → List (Nat × Nat) → Prop where
  | nil {pos} :
    Row pos pos []
  | cons {pos length stop bs} :
    1 ≤ length →
    Row (pos + length) stop bs →
    Row pos stop ((pos, length) :: bs)

section Row

variable {pos stop : Nat} {bs : List (Nat × Nat)}

/-- A row does not end before it begins. -/
lemma Row.le (row : Row pos stop bs) : pos ≤ stop := by
  induction row with
  | nil => exact Nat.le_refl _
  | cons _ _ ih => omega

/-- Each block of a row lies inside it and is not empty. -/
lemma Row.mem (row : Row pos stop bs) :
    ∀ b ∈ bs, pos ≤ b.1 ∧ 1 ≤ b.2 ∧ b.1 + b.2 ≤ stop := by
  induction row with
  | nil => simp
  | cons positive row ih =>
    refine List.forall_mem_cons.mpr ⟨⟨Nat.le_refl _, positive, row.le⟩, fun b hb => ?_⟩
    have inside := ih b hb
    omega

/-- Blocks in a row cover every place once. -/
lemma Row.flatMap (row : Row pos stop bs) :
    bs.flatMap (fun b => List.range' b.1 b.2) = List.range' pos (stop - pos) := by
  induction row with
  | nil => simp
  | @cons pos length stop bs positive row ih =>
    have le := row.le
    have total : stop - pos = length + (stop - (pos + length)) := by omega
    rw [List.flatMap_cons, ih, total, ← List.range'_append_1]

/-- In what blocks in a row bring, each stands at its place. -/
lemma Row.slices {answers : List Bytes} (row : Row pos stop bs)
    (sizes : List.Forall₂ (fun b answer => answer.length = b.2) bs answers) {before : Bytes}
    (hpos : before.length = pos) :
    List.Forall₂ (fun b answer => ((before ++ answers.flatten).drop b.1).take b.2 = answer)
      bs answers := by
  induction row generalizing answers before with
  | nil =>
    cases sizes
    exact .nil
  | @cons _ length _ _ positive row ih =>
    cases sizes with
    | @cons _ answer _ answers size sizes =>
      subst hpos
      have after : (before ++ answer).length = before.length + length := by
        rw [List.length_append, size]
      have rest := ih sizes after
      rw [List.append_assoc, ← List.flatten_cons] at rest
      refine .cons ?_ rest
      rw [List.drop_left, List.flatten_cons, ← size, List.take_left]

/-- Answers of the sizes of a row are as long together as the row. -/
lemma Row.length {answers : List Bytes} (row : Row pos stop bs)
    (sizes : List.Forall₂ (fun b answer => answer.length = b.2) bs answers) :
    answers.flatten.length = stop - pos := by
  induction row generalizing answers with
  | nil =>
    cases sizes
    simp
  | cons positive row ih =>
    cases sizes with
    | cons size sizes =>
      have le := row.le
      rw [List.flatten_cons, List.length_append, ih sizes, size]
      omega

end Row

/-- The blocks from one number on are in a row up to the end of the piece. -/
lemma row_from {blockSize pieceLength k count : Nat} (positive : 1 ≤ blockSize)
    (inside : ∀ j < k + count, j * blockSize < pieceLength)
    (enough : pieceLength ≤ (k + count) * blockSize) :
    Row (min (k * blockSize) pieceLength) pieceLength
      ((List.range' k count).map (pieceBlock blockSize pieceLength)) := by
  induction count generalizing k with
  | zero =>
    rw [Nat.add_zero] at enough
    rw [Nat.min_eq_right enough]
    exact .nil
  | succ count ih =>
    have here : k * blockSize < pieceLength := inside k (by omega)
    rw [List.range'_succ, List.map_cons, pieceBlock, Nat.min_eq_left (Nat.le_of_lt here)]
    refine .cons (by omega) ?_
    have next := ih (k := k + 1) (fun j hj => inside j (by omega))
      (by rwa [Nat.add_right_comm])
    have place : k * blockSize + min blockSize (pieceLength - k * blockSize) =
        min ((k + 1) * blockSize) pieceLength := by
      rw [Nat.succ_mul]
      omega
    rwa [place]

/-- Every block begins in the piece. -/
lemma block_inside {blockSize pieceLength j : Nat} (positive : 1 ≤ blockSize)
    (h : j < (pieceLength + blockSize - 1) / blockSize) : j * blockSize < pieceLength := by
  rw [Nat.lt_iff_add_one_le, Nat.le_div_iff_mul_le positive, Nat.succ_mul] at h
  omega

/-- The blocks are enough for the piece. -/
lemma blocks_enough {blockSize : Nat} (positive : 1 ≤ blockSize) (pieceLength : Nat) :
    pieceLength ≤ (pieceLength + blockSize - 1) / blockSize * blockSize := by
  have bound := Nat.lt_mul_div_succ (pieceLength + blockSize - 1) positive
  rw [Nat.mul_comm, Nat.succ_mul] at bound
  omega

/-- The blocks of a piece are in a row from its beginning to its end. -/
theorem row_pieceBlocks {blockSize : Nat} (positive : 1 ≤ blockSize) (pieceLength : Nat) :
    Row 0 pieceLength (pieceBlocks blockSize pieceLength) := by
  have row := @row_from blockSize pieceLength 0 ((pieceLength + blockSize - 1) / blockSize) positive
    ?_ ?_
  · rwa [Nat.zero_mul, Nat.zero_min, ← List.range_eq_range'] at row
  · intro j hj
    exact block_inside positive (by rwa [Nat.zero_add] at hj)
  · rw [Nat.zero_add]
    exact blocks_enough positive pieceLength

/-! ## Requests in a row -/

/-- The message that asks for a block of a piece. -/
def requestBytes (index : UInt32) (b : Nat × Nat) : Bytes :=
  Bytes.word 4 13 ++ [6] ++ Bytes.word 4 index.toNat ++ Bytes.word 4 b.1 ++ Bytes.word 4 b.2

/-- The stream delivers blocks one after the other: what it brings for each, and what is left. -/
inductive Delivered (index : UInt32) : List (Nat × Nat) → Bytes → List Bytes → Bytes → Prop where
  | nil {stream} :
    Delivered index [] stream [] stream
  | cons {b bs stream answers rest} (d : Delivery index (UInt32.ofNat b.1) b.2 stream) :
    Delivered index bs d.rest answers rest →
    Delivered index (b :: bs) stream (d.block :: answers) rest

/-- Requests for blocks, one after the other, each of which returns what is listed for it. -/
inductive Answered (index : UInt32) (limit : Duration) :
    List (Nat × Nat) → Session → List Bytes → Session → Prop where
  | nil {s} :
    Answered index limit [] s [] s
  | cons {b bs s answer t answers s'} :
    s.requestBlock index (UInt32.ofNat b.1) b.2 limit = (.ok answer, t) →
    Answered index limit bs t answers s' →
    Answered index limit (b :: bs) s (answer :: answers) s'

variable {index : UInt32} {limit : Duration} {s s' : Session} {bs : List (Nat × Nat)}
  {answers : List Bytes}

/-- The frame of a request for a block of a row. -/
lemma frame_eq_requestBytes {b : Nat × Nat} (start : b.1 < 2 ^ 32) (small : b.2 ≤ maxBlock) :
    (Message.request index (UInt32.ofNat b.1) (UInt32.ofNat b.2)).frame = requestBytes index b := by
  rw [Session.request_frame index _ small, UInt32.toNat_ofNat', Nat.mod_eq_of_lt start]
  rfl

/-- Requests that are answered are all sent. -/
lemma Answered.sent (h : Answered index limit bs s answers s') (starts : ∀ b ∈ bs, b.1 < 2 ^ 32) :
    s'.link.sent = s.link.sent ++ bs.flatMap (requestBytes index) := by
  induction h with
  | nil => simp
  | cons run _ ih =>
    obtain ⟨start, starts⟩ := List.forall_mem_cons.mp starts
    obtain ⟨small, -, -, -, sent⟩ := Session.requestBlock_ok run
    rw [ih starts, sent, frame_eq_requestBytes start small, List.flatMap_cons, List.append_assoc]

/-- Requests that are answered are answered by the stream. -/
lemma Answered.delivered (h : Answered index limit bs s answers s') :
    Delivered index bs s.link.incoming.unread answers s'.link.incoming.unread := by
  induction h with
  | nil => exact .nil
  | cons run _ ih =>
    obtain ⟨-, d, rfl, incoming, -⟩ := Session.requestBlock_ok run
    rw [incoming] at ih
    exact .cons d ih

/-- What is delivered for blocks has their sizes. -/
lemma Delivered.sizes {stream rest : Bytes} (h : Delivered index bs stream answers rest) :
    List.Forall₂ (fun b answer => answer.length = b.2) bs answers := by
  induction h with
  | nil => exact .nil
  | cons d _ ih => exact .cons d.length_block ih

namespace Session

/-- From the beginning of a block on, the loop that moves through a piece asks for this block and those
after it. -/
lemma fetchBlocks_from {config : DownloadConfig} {pieceLength k count : Nat}
    (positive : config.blockSize ≠ 0) (index : UInt32) (done : List Bytes) (s : Session)
    (inside : ∀ j < k + count, j * config.blockSize < pieceLength)
    (enough : pieceLength ≤ (k + count) * config.blockSize) :
    s.fetchBlocks config positive index pieceLength done (min (k * config.blockSize) pieceLength) =
      s.requestAll index config.blockTimeout done
        ((List.range' k count).map (pieceBlock config.blockSize pieceLength)) := by
  induction count generalizing k done s with
  | zero =>
    rw [Nat.add_zero] at enough
    rw [Nat.min_eq_right enough, fetchBlocks, if_neg (Nat.lt_irrefl _)]
    rfl
  | succ count ih =>
    have here : k * config.blockSize < pieceLength := inside k (by omega)
    have next (done : List Bytes) (s : Session) := @ih (k + 1) done s
      (fun j below => inside j (by omega)) (by rwa [Nat.add_right_comm])
    -- the place moves by the length of the block, to the beginning of the next one
    have place : k * config.blockSize + min config.blockSize (pieceLength - k * config.blockSize) =
        min ((k + 1) * config.blockSize) pieceLength := by
      rw [Nat.succ_mul]
      omega
    rw [Nat.min_eq_left (Nat.le_of_lt here), fetchBlocks, if_pos here, List.range'_succ,
      List.map_cons, requestAll, pieceBlock, Nat.min_comm]
    dsimp only
    rw [place]
    rcases s.requestBlock index (UInt32.ofNat (k * config.blockSize)) _ config.blockTimeout with
      ⟨e | block, t⟩
    · rfl
    · exact next (block :: done) t

/-- The loop over a piece asks for the blocks that tile it. -/
theorem fetchBlocks_eq {config : DownloadConfig} (positive : config.blockSize ≠ 0) (index : UInt32)
    (pieceLength : Nat) (s : Session) :
    s.fetchBlocks config positive index pieceLength [] 0 =
      s.requestAll index config.blockTimeout [] (pieceBlocks config.blockSize pieceLength) := by
  have some : 1 ≤ config.blockSize := Nat.pos_of_ne_zero positive
  have all := @fetchBlocks_from config pieceLength 0 _ positive index [] s
    (fun j below => block_inside some (by rwa [Nat.zero_add] at below))
    (by rw [Nat.zero_add]; exact blocks_enough some pieceLength)
  rwa [Nat.zero_mul, Nat.zero_min, ← List.range_eq_range'] at all

/-- Requests in a row end with the answers to all of them, or with the first that fails. -/
theorem requestAll_cases (index : UInt32) (limit : Duration) (done : List Bytes)
    (bs : List (Nat × Nat)) (s : Session) :
    let outcome := s.requestAll index limit done bs
    (∃ answers, Answered index limit bs s answers outcome.2 ∧
      outcome.1 = .ok (done.reverse ++ answers)) ∨
    ∃ answered failing later answers t e, bs = answered ++ failing :: later ∧
      Answered index limit answered s answers t ∧
      t.requestBlock index (UInt32.ofNat failing.1) failing.2 limit = (.error e, outcome.2) ∧
      outcome.1 = .error e := by
  induction bs generalizing done s with
  | nil => exact .inl ⟨[], .nil, by simp [requestAll]⟩
  | cons first bs ih =>
    rw [requestAll]
    rcases run : s.requestBlock index (UInt32.ofNat first.1) first.2 limit with ⟨e | block, t⟩
    · exact .inr ⟨[], first, bs, [], s, e, rfl, .nil, run, rfl⟩
    · rcases ih (block :: done) t with
        ⟨answers, answered, ok⟩ | ⟨answered, failing, later, answers, u, e, eq, before, failed, err⟩
      · exact .inl ⟨block :: answers, .cons run answered, by simpa using ok⟩
      · refine .inr ⟨first :: answered, failing, later, block :: answers, u, e, ?_,
          .cons run before, failed, err⟩
        rw [eq, List.cons_append]

/-- A request sends nothing, or that it asks for the block. -/
lemma requestBlock_asks (index : UInt32) (limit : Duration) (s : Session) {b : Nat × Nat}
    (start : b.1 < 2 ^ 32) :
    (s.requestBlock index (UInt32.ofNat b.1) b.2 limit).2.link.sent = s.link.sent ∨
    (s.requestBlock index (UInt32.ofNat b.1) b.2 limit).2.link.sent =
      s.link.sent ++ requestBytes index b := by
  rcases requestBlock_sent index (UInt32.ofNat b.1) b.2 limit s with unsent | ⟨small, sent⟩
  · exact .inl unsent
  · rw [frame_eq_requestBytes start small] at sent
    exact .inr sent

/-- After requests that are answered, the next is sent or not. -/
lemma sent_after_answered {answered : List (Nat × Nat)} {t : Session}
    (h : Answered index limit answered s answers t) (failing : Nat × Nat)
    (starts : ∀ b ∈ answered ++ [failing], b.1 < 2 ^ 32) :
    ∃ asked, asked <+: answered ++ [failing] ∧
      (t.requestBlock index (UInt32.ofNat failing.1) failing.2 limit).2.link.sent =
        s.link.sent ++ asked.flatMap (requestBytes index) := by
  have before := h.sent fun b hb => starts b (List.mem_append_left _ hb)
  rcases requestBlock_asks index limit t (starts failing (by simp)) with unsent | sent
  · refine ⟨answered, List.prefix_append _ _, ?_⟩
    rw [unsent, before]
  · refine ⟨answered ++ [failing], List.prefix_rfl, ?_⟩
    rw [sent, before, List.flatMap_append, List.flatMap_singleton, List.append_assoc]

/-- A piece that makes sense is fetched by the loop over its blocks. -/
lemma downloadPiece_eq {config : DownloadConfig} {pieceLength : Nat} (index : UInt32) (s : Session)
    (positive : 1 ≤ config.blockSize) (small : pieceLength < 2 ^ 32) :
    s.downloadPiece config index pieceLength =
      match s.requestAll index config.blockTimeout [] (pieceBlocks config.blockSize pieceLength) with
      | (.error e, s) => (.error e, s)
      | (.ok blocks, s) => (.ok blocks.flatten, s) := by
  have sensible : ¬ config.blockSize = 0 := by omega
  have fits : ¬ UInt32.size ≤ pieceLength := Nat.not_le.mpr small
  have fetched := fetchBlocks_eq sensible index pieceLength s
  rw [downloadPiece, dif_neg sensible, if_neg fits]
  rcases run : s.requestAll index config.blockTimeout []
    (pieceBlocks config.blockSize pieceLength) with ⟨_ | blocks, t⟩
  all_goals
    rw [run] at fetched
    simp only [fetched]

/-- A piece that is fetched has the length that was asked for. -/
lemma length_of_downloadPiece {config : DownloadConfig} {pieceLength : Nat} {data : Bytes}
    (h : s.downloadPiece config index pieceLength = (.ok data, s')) : data.length = pieceLength := by
  have positive : 1 ≤ config.blockSize := Nat.pos_of_ne_zero fun zero => by
    rw [downloadPiece, dif_pos zero] at h
    cases h
  have small : pieceLength < 2 ^ 32 := Nat.lt_of_not_le fun large => by
    have refused : UInt32.size ≤ pieceLength := large
    rw [downloadPiece, dif_neg (Nat.ne_of_gt positive), if_pos refused] at h
    cases h
  rw [downloadPiece_eq index s positive small] at h
  have ending := requestAll_cases index config.blockTimeout []
    (pieceBlocks config.blockSize pieceLength) s
  split at h
  · cases h
  rename_i blocks _ run
  cases h
  rw [run] at ending
  rcases ending with ⟨answers, trace, eq⟩ | ⟨-, -, -, -, -, e, -, -, -, eq⟩
  · cases eq
    exact (row_pieceBlocks positive pieceLength).length trace.delivered.sizes
  · cases eq

/-- The first of the blocks of a piece are asked for, in order, and the blocks tile the piece. If all
are asked for and the stream delivers each, the piece has the right length and every block at its
place. Otherwise there is an error: the blocks before the one that fails were delivered, and none
after it is asked for. -/
theorem downloadPiece_requests {config : DownloadConfig} {pieceLength : Nat} (index : UInt32)
    (s : Session) (positive : 1 ≤ config.blockSize) (small : pieceLength < 2 ^ 32) :
    let blocks := pieceBlocks config.blockSize pieceLength
    let outcome := s.downloadPiece config index pieceLength
    let unread := s.link.incoming.unread
    (blocks.flatMap (fun b => List.range' b.1 b.2) = List.range pieceLength ∧
      ∀ b ∈ blocks, 1 ≤ b.2 ∧ b.1 + b.2 < 2 ^ 32) ∧
    ∃ asked, asked <+: blocks ∧
      outcome.2.link.sent = s.link.sent ++ asked.flatMap (requestBytes index) ∧
      ((∃ data answers, outcome.1 = .ok data ∧ asked = blocks ∧ data.length = pieceLength ∧
          Delivered index blocks unread answers outcome.2.link.incoming.unread ∧
          List.Forall₂ (fun b answer => (data.drop b.1).take b.2 = answer) blocks answers) ∨
        ∃ e answered failing later answers, ∃ t : Session, outcome.1 = .error e ∧
          blocks = answered ++ failing :: later ∧ asked <+: answered ++ [failing] ∧
          Delivered index answered unread answers t.link.incoming.unread ∧
          t.link.sent = s.link.sent ++ answered.flatMap (requestBytes index) ∧
          t.requestBlock index (UInt32.ofNat failing.1) failing.2 config.blockTimeout =
            (.error e, outcome.2)) := by
  intro blocks outcome unread
  have row : Row 0 pieceLength blocks := row_pieceBlocks positive pieceLength
  have bounds : ∀ b ∈ blocks, 1 ≤ b.2 ∧ b.1 + b.2 < 2 ^ 32 := fun b hb => by
    have inside := row.mem b hb
    omega
  have starts : ∀ b ∈ blocks, b.1 < 2 ^ 32 := fun b hb => by
    have inside := bounds b hb
    omega
  refine ⟨⟨?_, bounds⟩, ?_⟩
  · rw [row.flatMap, Nat.sub_zero, List.range_eq_range']
  have fetched := downloadPiece_eq index s positive small
  have ending := requestAll_cases index config.blockTimeout []
    (pieceBlocks config.blockSize pieceLength) s
  rcases run : s.requestAll index config.blockTimeout []
    (pieceBlocks config.blockSize pieceLength) with ⟨result, s'⟩
  rw [run] at fetched ending
  rcases ending with ⟨answers, trace, rfl⟩ |
    ⟨answered, failing, later, answers, t, e, eq, trace, failed, rfl⟩
  · -- all requests were answered
    have done : outcome = (.ok answers.flatten, s') := fetched
    have sizes := trace.delivered.sizes
    refine ⟨blocks, List.prefix_rfl, ?_, .inl ⟨answers.flatten, answers, ?_, rfl, ?_, ?_, ?_⟩⟩
    · rw [done]
      exact trace.sent starts
    · rw [done]
    · rw [row.length sizes, Nat.sub_zero]
    · rw [done]
      exact trace.delivered
    · exact row.slices sizes (rfl : ([] : Bytes).length = 0)
  · -- the request that failed was sent or not
    have last : outcome = (.error e, s') := fetched
    have cut : blocks = answered ++ [failing] ++ later := eq.trans (List.append_cons ..)
    have starts' : ∀ b ∈ answered ++ [failing], b.1 < 2 ^ 32 := fun b hb =>
      starts b (cut ▸ List.mem_append_left later hb)
    obtain ⟨asked, within, sent⟩ := sent_after_answered trace failing starts'
    rw [failed] at sent
    rw [last]
    refine ⟨asked, within.trans ⟨later, cut.symm⟩, sent, .inr ⟨e, answered, failing, later, answers,
      t, rfl, eq, within, trace.delivered, ?_, failed⟩⟩
    exact trace.sent fun b hb => starts' b (List.mem_append_left _ hb)

/-- Three bytes come in a block of two and a block of one, after a keep-alive. -/
theorem downloadPiece_requests_two_blocks :
    let stream : Bytes := [0, 0, 0, 0, 0, 0, 0, 11, 7, 0, 0, 0, 1, 0, 0, 0, 0, 42, 43,
      0, 0, 0, 10, 7, 0, 0, 0, 1, 0, 0, 0, 2, 44, 9]
    let s : Session :=
      ⟨⟨⟨127, 0, 0, 1⟩, 6881⟩, .fresh ⟨stream, .closed⟩, .unchoked, .zero, false, .unknown, []⟩
    let outcome := s.downloadPiece ⟨2, default⟩ 1 3
    outcome.1 = .ok [42, 43, 44] ∧
      Delivered 1 [(0, 2), (2, 1)] stream [[42, 43], [44]] outcome.2.link.incoming.unread := by
  intro stream s outcome
  have ok : outcome.1 = .ok [42, 43, 44] := by decide +kernel
  refine ⟨ok, ?_⟩
  obtain ⟨-, asked, -, -, whole | failed⟩ :=
    @downloadPiece_requests ⟨2, default⟩ 3 1 s (by decide) (by decide)
  · obtain ⟨data, answers, ok', -, -, delivered, slices⟩ := whole
    rw [show s.downloadPiece ⟨2, default⟩ 1 3 = outcome from rfl, ok] at ok'
    cases ok'
    -- what stands at the places of the two blocks is what was delivered for them
    have blocks : pieceBlocks 2 3 = [(0, 2), (2, 1)] := by decide
    rw [blocks] at delivered slices
    obtain _ | ⟨rfl, _ | ⟨rfl, _ | _⟩⟩ := slices
    exact delivered
  · obtain ⟨e, -, -, -, -, -, error, -⟩ := failed
    rw [show s.downloadPiece ⟨2, default⟩ 1 3 = outcome from rfl, ok] at error
    cases error

end Session

end Swarm.Peer
