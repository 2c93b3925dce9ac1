import Swarm.Proofs.Cut
import Swarm.Tracker.Http.Response

/-!
# Bodies in chunks

What a body in chunks is, apart from how it is put together: lines with sizes, each with as many bytes
after it, up to the line of a chunk of size zero. A body is put together exactly if its bytes begin
so, and there is one such beginning at most.
-/

namespace Swarm.Tracker.Http

open Swarm.Text

/-- The line, without its end, tells the size of a chunk. -/
structure SizeLine (line : Bytes) (size : Nat) : Prop where
  unbroken : ¬ crlf <:+: line
  size : Numeral.natural? 16 UInt64.size (sizeText line) = some size

/-- The bytes hold the chunks, each after a line with its size and perhaps before a line end, and stop
with the line of a chunk of size zero. -/
inductive Chunked : Bytes → List Bytes → Prop where
  | last {line} :
    SizeLine line 0 →
    Chunked (line ++ crlf) []
  | chunk {line chunk gap b chunks} :
    SizeLine line chunk.length →
    chunk ≠ [] →
    gap = [] ∨ gap = crlf →
    Chunked b chunks →
    Chunked (line ++ crlf ++ (chunk ++ (gap ++ b))) (chunk :: chunks)

/-- What stands after a line end, if there is one first. -/
def afterLineEnd (b : Bytes) : Bytes := if crlf.isPrefixOf b then b.drop 2 else b

variable {b line line' chunk gap coded coded' rest rest' tail tail' : Bytes}
variable {done chunks chunks' : List Bytes} {size size' : Nat}

/-! ## Size lines -/

/-- A line is cut at its end. -/
lemma cutFrom_line (unbroken : ¬ crlf <:+: line) (passed rest : Bytes) :
    Bytes.cutFrom crlf passed (line ++ crlf ++ rest) = some (passed.reverse ++ line, rest) := by
  induction line generalizing passed with
  | nil => simp [crlf, Bytes.cutFrom]
  | cons x line ih =>
    have away : ¬ crlf.isPrefixOf (x :: (line ++ crlf ++ rest)) := by
      intro here
      obtain ⟨rfl, next⟩ := List.cons_prefix_cons.mp (List.isPrefixOf_iff_prefix.mp here)
      cases line with
      | nil => exact absurd (List.cons_prefix_cons.mp next).1 (by decide)
      | cons y line =>
        obtain ⟨rfl, -⟩ := List.cons_prefix_cons.mp next
        exact unbroken ⟨[], line, rfl⟩
    have later : ¬ crlf <:+: line := fun h => unbroken (List.infix_cons h)
    rw [List.cons_append, List.cons_append, Bytes.cutFrom, if_neg away, ih later]
    simp

/-- The first line of a body is read up to its end. -/
lemma SizeLine.cut? (h : SizeLine line size) (rest : Bytes) :
    Bytes.cut? crlf (line ++ crlf ++ rest) = some (line, rest) :=
  cutFrom_line h.unbroken [] rest

/-- What is cut off before a line end has no line end in it. -/
lemma unbroken_of_cut? (h : Bytes.cut? crlf b = some (line, rest)) : ¬ crlf <:+: line := by
  intro broken
  have eq := Bytes.cut?_eq h
  have le := Bytes.cut?_le h ⟨crlf ++ rest, by rw [eq, List.append_assoc]⟩ broken
  simp only [crlf, List.length_cons, List.length_nil] at le
  omega

/-- A size line is not empty. -/
lemma SizeLine.ne_nil (h : SizeLine line size) : line ≠ [] := by
  rintro rfl
  exact absurd h.size nofun

/-- A size line is not the end of a line. -/
lemma SizeLine.not_crlf (h : SizeLine line size) (rest : Bytes) :
    ¬ crlf.isPrefixOf (line ++ crlf ++ rest) := by
  intro first
  have le := Bytes.cut?_le (h.cut? rest) (List.isPrefixOf_iff_prefix.mp first) List.infix_rfl
  have none : line.length = 0 := by omega
  exact h.ne_nil (List.length_eq_zero_iff.mp none)

/-- Two lines with sizes at the beginning of the same bytes are the same. -/
lemma SizeLine.unique (h : SizeLine line size) (h' : SizeLine line' size')
    (eq : line ++ crlf ++ rest = line' ++ crlf ++ rest') :
    line = line' ∧ size = size' ∧ rest = rest' := by
  have found := h.cut? rest
  rw [eq, h'.cut? rest'] at found
  cases found
  have same := h.size.symm.trans h'.size
  exact ⟨rfl, Option.some.inj same, rfl⟩

/-! ## Line ends after chunks -/

/-- Before what stands after a line end there is a line end or nothing. -/
lemma exists_gap (b : Bytes) : ∃ gap, (gap = [] ∨ gap = crlf) ∧ b = gap ++ afterLineEnd b := by
  by_cases first : crlf.isPrefixOf b
  · obtain ⟨after, rfl⟩ := List.isPrefixOf_iff_prefix.mp first
    exact ⟨crlf, .inr rfl, by rw [afterLineEnd, if_pos first]; rfl⟩
  · exact ⟨[], .inl rfl, by rw [afterLineEnd, if_neg first]; rfl⟩

/-- A size line comes first, not a line end. -/
lemma Chunked.not_crlf (h : Chunked coded chunks) (rest : Bytes) :
    ¬ crlf.isPrefixOf (coded ++ rest) := by
  cases h with
  | last sized => exact sized.not_crlf rest
  | chunk sized =>
    rw [List.append_assoc]
    exact sized.not_crlf _

/-- A line end before the next size line is passed over, if there is one. -/
lemma Chunked.past_gap (h : Chunked coded chunks) (hgap : gap = [] ∨ gap = crlf) (rest : Bytes) :
    afterLineEnd (gap ++ (coded ++ rest)) = coded ++ rest := by
  rcases hgap with rfl | rfl
  · exact if_neg (h.not_crlf rest)
  · rfl

/-- Chunks are not the beginning of other chunks. -/
theorem Chunked.unique (h : Chunked coded chunks) (h' : Chunked coded' chunks')
    (eq : coded ++ tail = coded' ++ tail') : coded = coded' := by
  -- both spellings agree on the size line, hence on the chunk and on what follows it
  induction h generalizing coded' chunks' with
  | last sized =>
    cases h' with
    | last sized' =>
      obtain ⟨rfl, -, -⟩ := sized.unique sized' eq
      rfl
    | @chunk line' chunk' gap' b' _ sized' nonempty' =>
      rw [List.append_assoc (line' ++ crlf)] at eq
      obtain ⟨-, none, -⟩ := sized.unique sized' eq
      exact absurd (List.length_eq_zero_iff.mp none.symm) nonempty'
  | @chunk line chunk gap b _ sized nonempty hgap more ih =>
    rw [List.append_assoc (line ++ crlf)] at eq
    cases h' with
    | last sized' =>
      obtain ⟨-, none, -⟩ := sized.unique sized' eq
      exact absurd (List.length_eq_zero_iff.mp none) nonempty
    | @chunk line' chunk' gap' b' _ sized' nonempty' hgap' more' =>
      rw [List.append_assoc (line' ++ crlf)] at eq
      obtain ⟨rfl, length, behind⟩ := sized.unique sized' eq
      simp only [List.append_assoc] at behind
      obtain ⟨rfl, gaps⟩ := List.append_inj behind length
      have after := congrArg afterLineEnd gaps
      rw [more.past_gap hgap, more'.past_gap hgap'] at after
      obtain rfl := ih more' after
      rw [after] at gaps
      rw [List.append_cancel_right gaps]

/-! ## Putting together -/

/-- A size of zero ends the chunks. -/
lemma joinFrom_last (h : SizeLine line 0) (done : List Bytes) (fuel rest : Bytes) :
    joinFrom done fuel (line ++ crlf ++ rest) = .ok done.reverse.flatten := by
  rw [joinFrom, h.cut?]
  simp only [h.size]

/-- One more chunk is taken. -/
lemma joinFrom_chunk (h : SizeLine line chunk.length) (nonempty : chunk ≠ [])
    (done : List Bytes) (x : UInt8) (fuel rest : Bytes) :
    joinFrom done (x :: fuel) (line ++ crlf ++ (chunk ++ rest)) =
      joinFrom (chunk :: done) fuel (afterLineEnd rest) := by
  obtain ⟨size, eq⟩ : ∃ size, chunk.length = size + 1 :=
    Nat.exists_eq_succ_of_ne_zero (mt List.length_eq_zero_iff.mp nonempty)
  have whole : (chunk ++ rest).take (size + 1) = chunk := by rw [← eq, List.take_left]
  have left : (chunk ++ rest).drop (size + 1) = rest := by rw [← eq, List.drop_left]
  rw [joinFrom, h.cut?]
  simp only [h.size, eq, whole, left, lt_irrefl, if_false, afterLineEnd]

/-- Chunks are put together, whatever follows them. -/
lemma joinFrom_chunked (h : Chunked coded chunks) {fuel : Bytes}
    (enough : chunks.length ≤ fuel.length) (done : List Bytes) (rest : Bytes) :
    joinFrom done fuel (coded ++ rest) = .ok (done.reverse.flatten ++ chunks.flatten) := by
  induction h generalizing done fuel with
  | last sized =>
    rw [joinFrom_last sized, List.flatten_nil, List.append_nil]
  | chunk sized nonempty hgap more ih =>
    cases fuel with
    | nil => cases enough
    | cons x fuel =>
      simp only [List.append_assoc _ _ rest]
      rw [joinFrom_chunk sized nonempty, more.past_gap hgap,
        ih (Nat.le_of_succ_le_succ enough)]
      simp

/-- What is put together are chunks, with anything after them. -/
lemma chunked_of_joinFrom {fuel b body : Bytes} (h : joinFrom done fuel b = .ok body) :
    ∃ coded chunks tail, b = coded ++ tail ∧ Chunked coded chunks ∧
      body = done.reverse.flatten ++ chunks.flatten := by
  -- the zero-size line ends the chunks, every other line that succeeds adds one
  fun_induction joinFrom done fuel b with
  | case1 | case2 | case4 | case5 => cases h
  | case3 _ done b line rest found size =>
    cases h
    refine ⟨line ++ crlf, [], rest, Bytes.cut?_eq found, .last ⟨?_, size⟩, by simp⟩
    exact unbroken_of_cut? found
  | case6 done b line rest found size positive sized chunk long _ _ left after ih =>
    obtain ⟨coded, chunks, tail, eq, more, rfl⟩ := ih h
    obtain ⟨gap, hgap, split⟩ := exists_gap left
    have length : chunk.length = size := by
      rw [List.length_take] at long ⊢
      omega
    have nonempty : chunk ≠ [] := mt List.length_eq_zero_iff.mpr (length ▸ positive)
    refine ⟨line ++ crlf ++ (chunk ++ (gap ++ coded)), chunk :: chunks, tail, ?_, ?_, by simp⟩
    · calc b = line ++ crlf ++ rest := Bytes.cut?_eq found
        _ = line ++ crlf ++ (chunk ++ left) := by rw [List.take_append_drop]
        _ = line ++ crlf ++ (chunk ++ (gap ++ after)) := congrArg _ (congrArg _ split)
        _ = line ++ crlf ++ (chunk ++ (gap ++ coded)) ++ tail := by rw [eq]; simp
    · exact .chunk ⟨unbroken_of_cut? found, length ▸ sized⟩ nonempty hgap more

/-- There are no more chunks than bytes of their coding. -/
lemma Chunked.length_le (h : Chunked coded chunks) : chunks.length ≤ coded.length := by
  induction h with
  | last => exact Nat.zero_le _
  | chunk _ nonempty _ _ ih =>
    have := List.length_pos_iff.mpr nonempty
    simp only [List.length_cons, List.length_append]
    omega

/-- Chunks are put together with anything after them, and nothing else is. -/
theorem joinChunks_eq_ok {b body : Bytes} :
    joinChunks b = .ok body ↔
      ∃ coded chunks tail, b = coded ++ tail ∧ Chunked coded chunks ∧ chunks.flatten = body := by
  constructor
  · intro h
    obtain ⟨coded, chunks, tail, eq, more, rfl⟩ := chunked_of_joinFrom h
    exact ⟨coded, chunks, tail, eq, more, rfl⟩
  · rintro ⟨coded, chunks, tail, rfl, more, rfl⟩
    refine joinFrom_chunked more ?_ [] tail
    rw [List.length_append]
    exact more.length_le.trans (Nat.le_add_right _ _)

end Swarm.Tracker.Http
