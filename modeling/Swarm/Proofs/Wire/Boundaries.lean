import Mathlib.Logic.Function.Iterate
import Swarm.Proofs.Wire.Readings

/-!
# Frame boundaries

Where the frames of a stream begin is told by the lengths before them and by nothing else. Two streams
of one size with the same lengths at the boundaries of the first are taken apart at the same places, up
to the same place where reading fails for good, and what is read of a frame depends on its own bytes.
-/

namespace Swarm.Wire
open Swarm.Net (Ending Stream)

/-- The length that is declared at a place. -/
def declared (b : Bytes) (i : Nat) : Nat := Bytes.number ((b.drop i).take 4)

/-- A frame begins at this place: at the beginning, or after a length within the limit and as many
bytes as it declares. -/
inductive Boundary (b : Bytes) : Nat → Prop where
  | first :
    Boundary b 0
  | next {i} :
    Boundary b i →
    i + 4 ≤ b.length →
    declared b i ≤ maxFrame →
    Boundary b (i + 4 + declared b i)

/-- The bytes of the length at every boundary of the one stand at the same place in the other. -/
def SameLengths (b c : Bytes) : Prop :=
  ∀ i, Boundary b i → i + 4 ≤ b.length → (c.drop i).take 4 = (b.drop i).take 4

/-- The stream after so many frames were read. -/
def afterFrames (x : Stream) (k : Nat) : Stream := (fun x => (readFrame x).2)^[k] x

/-- What reading the frame with the number `k` results in. -/
def frameAt (x : Stream) (k : Nat) : Reading := (readFrame (afterFrames x k)).1

/-- The bytes that are taken off the stream for that frame. -/
def takenAt (x : Stream) (k : Nat) : Bytes :=
  (afterFrames x k).unread.take
    ((afterFrames x k).unread.length - (afterFrames x (k + 1)).unread.length)

/-- Reading goes on over complete frames and fails for good at the frame with this number. -/
structure Stops (x : Stream) (last : Nat) (e : FrameError) : Prop where
  frames : (frames x).1 = (List.range (last + 1)).map (frameAt x)
  complete : ∀ k < last, Complete (frameAt x k)
  failed : frameAt x last = .error e
  broken : Broken x.ending (afterFrames x last).unread e (afterFrames x (last + 1)).unread

variable {ending : Ending} {bodies : List Bytes} {body tail rest b b' c : Bytes} {e : FrameError}

/-! ## Streams as frames, read by number -/

/-- After a frame, the others follow. -/
lemma afterFrames_framed (fits : body.length ≤ maxFrame) (rest : Bytes) (k : Nat) :
    afterFrames ⟨framed body ++ rest, ending⟩ (k + 1) = afterFrames ⟨rest, ending⟩ k := by
  rw [afterFrames, Function.iterate_succ_apply, readFrame_framed fits]
  rfl

/-- Reading takes the complete frames off one by one. -/
lemma afterFrames_framedAll (fits : ∀ body ∈ bodies, body.length ≤ maxFrame) (tail : Bytes) {k : Nat}
    (le : k ≤ bodies.length) :
    afterFrames ⟨framedAll bodies ++ tail, ending⟩ k =
      ⟨framedAll (bodies.drop k) ++ tail, ending⟩ := by
  induction k generalizing bodies with
  | zero => rfl
  | succ k ih =>
    cases bodies with
    | nil => cases le
    | cons body bodies =>
      obtain ⟨first, others⟩ := List.forall_mem_cons.mp fits
      rw [framedAll_cons, List.append_assoc, afterFrames_framed first, List.drop_succ_cons]
      exact ih others (Nat.le_of_succ_le_succ le)

section
variable (fits : ∀ body ∈ bodies, body.length ≤ maxFrame) (broken : Broken ending tail e rest)
include fits

/-- After some frames, the next one stands in front. -/
lemma afterFrames_getElem (tail : Bytes) {k : Nat} (h : k < bodies.length) :
    afterFrames ⟨framedAll bodies ++ tail, ending⟩ k =
      ⟨framed bodies[k] ++ (framedAll (bodies.drop (k + 1)) ++ tail), ending⟩ := by
  rw [afterFrames_framedAll fits tail (Nat.le_of_lt h), List.drop_eq_getElem_cons h,
    framedAll_cons, List.append_assoc]

/-- A complete frame is read for what its body says. -/
lemma frameAt_framedAll (tail : Bytes) {k : Nat} (h : k < bodies.length) :
    frameAt ⟨framedAll bodies ++ tail, ending⟩ k = readBody bodies[k] := by
  rw [frameAt, afterFrames_getElem fits tail h, readFrame_framed (fits _ (List.getElem_mem h))]

/-- A complete frame is what is taken off the stream for it. -/
lemma takenAt_framedAll (tail : Bytes) {k : Nat} (h : k < bodies.length) :
    takenAt ⟨framedAll bodies ++ tail, ending⟩ k = framed bodies[k] := by
  rw [takenAt, afterFrames_getElem fits tail h, afterFrames_framedAll fits tail h]
  simp

include broken

/-- After all frames, the broken one stands in front, and nothing is read after it. -/
lemma afterFrames_broken :
    afterFrames ⟨framedAll bodies ++ tail, ending⟩ bodies.length = ⟨tail, ending⟩ ∧
      afterFrames ⟨framedAll bodies ++ tail, ending⟩ (bodies.length + 1) = ⟨rest, ending⟩ := by
  have last : afterFrames ⟨framedAll bodies ++ tail, ending⟩ bodies.length = ⟨tail, ending⟩ := by
    rw [afterFrames_framedAll fits tail (Nat.le_refl _), List.drop_length]
    rfl
  refine ⟨last, ?_⟩
  rw [afterFrames, Function.iterate_succ_apply', ← afterFrames, last]
  show (readFrame ⟨tail, ending⟩).2 = _
  rw [broken.readFrame]

/-- A stream is read up to the first place where no complete frame comes next. -/
theorem stops_framedAll : Stops ⟨framedAll bodies ++ tail, ending⟩ bodies.length e := by
  obtain ⟨last, after⟩ := afterFrames_broken fits broken
  have failed : frameAt ⟨framedAll bodies ++ tail, ending⟩ bodies.length = .error e := by
    rw [frameAt, last, broken.readFrame]
  have read : bodies.map readBody =
      (List.range bodies.length).map (frameAt ⟨framedAll bodies ++ tail, ending⟩) := by
    apply List.ext_getElem
    · rw [List.length_map, List.length_map, List.length_range]
    · intro k h _
      rw [List.length_map] at h
      rw [List.getElem_map, List.getElem_map, List.getElem_range, frameAt_framedAll fits tail h]
  refine ⟨?_, fun k lt => ?_, failed, ?_⟩
  · rw [frames_eq fits broken, List.range_succ, List.map_append, List.map_singleton, failed, read]
  · rw [frameAt_framedAll fits tail lt]
    rcases readBody_cases bodies[k] with ⟨-, m, read⟩ | ⟨-, m, read⟩
    · rw [read]
      exact complete_ok m
    · rw [read]
      exact complete_malformed m
  · rw [last, after]
    exact broken

/-- What is taken of a broken frame is what is not left of it. -/
lemma length_takenAt_broken :
    (takenAt ⟨framedAll bodies ++ tail, ending⟩ bodies.length).length =
      min (tail.length - rest.length) tail.length := by
  obtain ⟨last, after⟩ := afterFrames_broken fits broken
  rw [takenAt, last, after, List.length_take]

end

/-! ## The same lengths -/

/-- A length is declared by the bytes where it stands. -/
lemma declared_append (a b : Bytes) (i : Nat) : declared (a ++ b) (a.length + i) = declared b i := by
  rw [declared, declared, List.drop_length_add_append]

/-- After a complete frame the boundaries are those of what follows. -/
lemma Boundary.behind (fits : body.length ≤ maxFrame) {i : Nat} (h : Boundary b i) :
    Boundary (framed body ++ b) ((framed body).length + i) := by
  have length := length_framed body
  induction h with
  | first =>
    have here : declared (framed body ++ b) 0 = body.length := by
      have small : body.length < 256 ^ 4 := Nat.lt_of_le_of_lt fits (by decide)
      rw [declared, List.drop_zero, framed, List.append_assoc,
        List.take_left' (Bytes.length_word 4 _), Bytes.number_word, Nat.mod_eq_of_lt small]
    have next := Boundary.next (b := framed body ++ b) .first (by simp [length]; omega)
      (by rwa [here])
    rwa [here, Nat.zero_add, ← length] at next
  | @next i _ inside small ih =>
    have there : declared (framed body ++ b) ((framed body).length + i) = declared b i :=
      declared_append (framed body) b i
    have next := ih.next (by rw [List.length_append]; omega) (by rwa [there])
    rw [there] at next
    rwa [Nat.add_assoc, Nat.add_assoc, ← Nat.add_assoc i] at next

/-- Streams with the same lengths have the same lengths behind their first frames. -/
lemma SameLengths.behind {body' : Bytes} (fits : body.length ≤ maxFrame)
    (size : body'.length = body.length)
    (same : SameLengths (framed body ++ b) (framed body' ++ c)) : SameLengths b c := by
  intro i boundary inside
  have length : (framed body').length = (framed body).length := by
    rw [length_framed, length_framed, size]
  have there := same _ (boundary.behind fits) (by rw [List.length_append]; omega)
  rwa [List.drop_length_add_append, ← length, List.drop_length_add_append] at there

/-- The length at the beginning of the one is that at the beginning of the other. -/
lemma SameLengths.head (same : SameLengths b c) (long : 4 ≤ b.length) :
    c = b.take 4 ++ c.drop 4 := by
  have here := same 0 .first (by omega)
  rw [List.drop_zero, List.drop_zero] at here
  rw [← here, List.take_append_drop]

/-- Where one stream begins with a complete frame, the other begins with a frame of its size. -/
lemma SameLengths.framed (size : c.length = (framed body ++ b).length)
    (same : SameLengths (framed body ++ b) c) :
    ∃ body' c', body'.length = body.length ∧ c'.length = b.length ∧ c = framed body' ++ c' := by
  have total : c.length = 4 + body.length + b.length := by
    rw [size, List.length_append, length_framed]
  have head := same.head (by omega)
  have word : (Wire.framed body ++ b).take 4 = Bytes.word 4 body.length := by
    rw [Wire.framed, List.append_assoc, List.take_left' (Bytes.length_word 4 _)]
  have body' : ((c.drop 4).take body.length).length = body.length := by
    rw [List.length_take, List.length_drop]
    omega
  refine ⟨(c.drop 4).take body.length, (c.drop 4).drop body.length, body', ?_, ?_⟩
  · rw [List.length_drop, List.length_drop]
    omega
  · rw [Wire.framed, body', List.append_assoc, List.take_append_drop, ← word, ← head]

/-- Where one stream is broken, the other is broken in the same way. -/
lemma SameLengths.broken (same : SameLengths b c) (size : c.length = b.length)
    (broken : Broken ending b e rest) :
    ∃ rest', rest'.length = rest.length ∧ Broken ending c e rest' := by
  cases broken with
  | ended short =>
    refine ⟨[], rfl, ?_⟩
    exact .ended (size ▸ short)
  | @oversized n _ large small =>
    have head := same.head (by simp)
    rw [List.take_left' (Bytes.length_word 4 n)] at head
    refine ⟨c.drop 4, ?_, ?_⟩
    · rw [List.length_drop, size, List.length_append, Bytes.length_word]
      omega
    · rw [head, List.drop_left' (Bytes.length_word 4 n)]
      exact .oversized large small
  | @cut n part fits short =>
    have head := same.head (by simp)
    rw [List.take_left' (Bytes.length_word 4 n)] at head
    have length : (c.drop 4).length = part.length := by
      rw [List.length_drop, size, List.length_append, Bytes.length_word]
      omega
    refine ⟨[], rfl, ?_⟩
    rw [head, ← length]
    exact .cut fits (by omega)

/-- The other stream is made of frames of the same sizes up to a place that is broken in the same
way. -/
theorem SameLengths.exists_frames (fits : ∀ body ∈ bodies, body.length ≤ maxFrame)
    (broken : Broken ending tail e rest) (size : c.length = (framedAll bodies ++ tail).length)
    (same : SameLengths (framedAll bodies ++ tail) c) :
    ∃ bodies' tail' rest', c = framedAll bodies' ++ tail' ∧
      (∀ body ∈ bodies', body.length ≤ maxFrame) ∧ Broken ending tail' e rest' ∧
      bodies'.map List.length = bodies.map List.length ∧ tail'.length = tail.length ∧
      rest'.length = rest.length := by
  induction bodies generalizing c with
  | nil =>
    obtain ⟨rest', left, broken'⟩ := same.broken size broken
    exact ⟨[], c, rest', rfl, nofun, broken', rfl, size, left⟩
  | cons body bodies ih =>
    obtain ⟨first, others⟩ := List.forall_mem_cons.mp fits
    rw [framedAll_cons, List.append_assoc] at size same
    obtain ⟨body', c', length, size', rfl⟩ := same.framed size
    obtain ⟨bodies', tail', rest', rfl, fits', later, lengths, facts⟩ :=
      ih others size' (same.behind first length)
    refine ⟨body' :: bodies', tail', rest', ?_, ?_, later, ?_, facts⟩
    · rw [framedAll_cons, List.append_assoc]
    · exact List.forall_mem_cons.mpr ⟨length ▸ first, fits'⟩
    · rw [List.map_cons, List.map_cons, length, lengths]

/-! ## Two streams -/

/-- Two streams of one size, with the same lengths at the frame boundaries of the first, are read up to
the frame with the same number, where both fail for good with the same error. At each step as many
bytes are taken off the one as off the other, and where these are the same bytes, the results are the
same. -/
theorem boundaries_agree (ending : Ending) (size : c.length = b.length) (same : SameLengths b c) :
    let x : Stream := ⟨b, ending⟩
    let y : Stream := ⟨c, ending⟩
    ∃ last e, Stops x last e ∧ Stops y last e ∧
      ∀ k ≤ last, (takenAt x k).length = (takenAt y k).length ∧
        (takenAt x k = takenAt y k → frameAt x k = frameAt y k) := by
  intro x y
  obtain ⟨bodies, tail, eq, without, stop⟩ := exists_frames ending (fun _ => False) b
  rcases stop with ⟨_, _, _, none, _⟩ | ⟨e, rest, broken⟩
  · exact none.elim
  subst eq
  have fits : ∀ body ∈ bodies, body.length ≤ maxFrame := fun body mem => (without body mem).1
  obtain ⟨bodies', tail', rest', rfl, fits', broken', lengths, size', left⟩ :=
    same.exists_frames fits broken size
  have count : bodies'.length = bodies.length := by
    simpa using congrArg List.length lengths
  have first : Stops x bodies.length e := stops_framedAll fits broken
  have second : Stops y bodies.length e := count ▸ stops_framedAll fits' broken'
  refine ⟨bodies.length, e, first, second, fun k le => ?_⟩
  rcases Nat.lt_or_eq_of_le le with lt | rfl
  · have lt' : k < bodies'.length := count ▸ lt
    have length : bodies'[k].length = bodies[k].length := by
      have there := List.getElem_of_eq lengths (i := k) (by simpa using lt')
      rwa [List.getElem_map, List.getElem_map] at there
    rw [takenAt_framedAll fits tail lt, takenAt_framedAll fits' tail' lt',
      frameAt_framedAll fits tail lt, frameAt_framedAll fits' tail' lt', length_framed,
      length_framed, length, framed_inj]
    exact ⟨rfl, congrArg readBody⟩
  · -- at the last step the errors are the same whatever was taken
    have taken := length_takenAt_broken fits' broken'
    rw [count, size', left, ← length_takenAt_broken fits broken] at taken
    rw [first.failed, second.failed]
    exact ⟨taken.symm, fun _ => rfl⟩

/-- An unchoke, a have that is too short and a piece that is cut off stand where a choke, a message
without a meaning and another piece that is cut off do. -/
theorem boundaries_agree_skipped :
    let b : Bytes := [0, 0, 0, 1, 1, 0, 0, 0, 2, 4, 9, 0, 0, 0, 10, 7, 0]
    let c : Bytes := [0, 0, 0, 1, 0, 0, 0, 0, 2, 20, 9, 0, 0, 0, 10, 7, 1]
    let x : Stream := ⟨b, .closed⟩
    let y : Stream := ⟨c, .closed⟩
    c.length = b.length ∧ SameLengths b c ∧
      ∃ last e, Stops x last e ∧ Stops y last e ∧
        ∀ k ≤ last, (takenAt x k).length = (takenAt y k).length ∧
          (takenAt x k = takenAt y k → frameAt x k = frameAt y k) := by
  intro b c x y
  have places {i : Nat} (h : Boundary b i) : i = 0 ∨ i = 5 ∨ i = 11 ∨ i = 25 := by
    induction h with
    | first => exact .inl rfl
    | next _ inside _ ih =>
      rcases ih with rfl | rfl | rfl | rfl
      · exact .inr (.inl rfl)
      · exact .inr (.inr (.inl rfl))
      · exact .inr (.inr (.inr rfl))
      · exact absurd inside (by decide)
  have same : SameLengths b c := by
    intro i boundary inside
    rcases places boundary with rfl | rfl | rfl | rfl
    · rfl
    · rfl
    · rfl
    · exact absurd inside (by decide)
  exact ⟨rfl, same, boundaries_agree .closed rfl same⟩

end Swarm.Wire
