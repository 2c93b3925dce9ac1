import Swarm.Proofs.Wire.Body

/-!
# Frames in a row

Frames that are read one after the other lead from one place in a stream to another. As long as every
one of them is there in full, it does not matter where reading pauses: the frames of a stream are those
up to such a place, and then the frames from there on.
-/

namespace Swarm.Wire
open Swarm.Net (Ending Stream)

/-- The frame is there in full, whether or not its payload has the right size. -/
def Complete (r : Reading) : Prop := ∀ e, r = .error e → ∃ m, e = .malformed m

/-- Frames are read one after the other with these results. -/
inductive Readings : Stream → List Reading → Stream → Prop where
  | nil {x} :
    Readings x [] x
  | read {x rs y} :
    Readings (readFrame x).2 rs y →
    Readings x ((readFrame x).1 :: rs) y

variable {x y z : Stream} {r : Reading} {rs rs' : List Reading}

/-- A message is a complete frame. -/
lemma complete_ok (m : Message) : Complete (.ok m) := nofun

/-- A malformed frame is a complete one. -/
lemma complete_malformed (m : Malformed) : Complete (.error (.malformed m)) := by
  rintro _ ⟨⟩
  exact ⟨m, rfl⟩

/-- A complete frame is read for what its body says. -/
lemma readFrame_complete (complete : Complete (readFrame x).1) :
    ∃ body, body.length ≤ maxFrame ∧ (readFrame x).1 = readBody body ∧
      x = ⟨framed body ++ (readFrame x).2.unread, (readFrame x).2.ending⟩ := by
  obtain ⟨b, ending⟩ := x
  rcases framed_or_broken ending b with ⟨body, rest, fits, rfl⟩ | ⟨e, rest, broken⟩
  · rw [readFrame_framed fits]
    exact ⟨body, fits, rfl, rfl⟩
  · rw [broken.readFrame] at complete
    obtain ⟨m, malformed⟩ := complete e rfl
    exact absurd malformed (broken.ne_malformed m)

namespace Readings

/-- One frame is read. -/
lemma single (x : Stream) : Readings x [(readFrame x).1] (readFrame x).2 := .read .nil

/-- What is read up to a place and from there on is read in all. -/
lemma trans (h : Readings x rs y) (h' : Readings y rs' z) : Readings x (rs ++ rs') z := by
  induction h with
  | nil => exact h'
  | read _ ih => exact .read (ih h')

/-- Complete frames stand in the stream one after the other. -/
theorem bodies (h : Readings x rs y) (complete : ∀ r ∈ rs, Complete r) :
    ∃ bodies, (∀ body ∈ bodies, body.length ≤ maxFrame) ∧ rs = bodies.map readBody ∧
      x = ⟨framedAll bodies ++ y.unread, y.ending⟩ := by
  induction h with
  | nil => exact ⟨[], nofun, rfl, rfl⟩
  | @read x rs y _ ih =>
    obtain ⟨first, others⟩ := List.forall_mem_cons.mp complete
    obtain ⟨bodies, fits, rfl, later⟩ := ih others
    obtain ⟨body, small, eq, here⟩ := readFrame_complete first
    refine ⟨body :: bodies, List.forall_mem_cons.mpr ⟨small, fits⟩, by rw [eq, List.map_cons], ?_⟩
    rw [later] at here
    rw [here, framedAll_cons, List.append_assoc]

end Readings

/-! ## All frames of a stream -/

/-- A whole frame is read, and the others after it. -/
lemma readFrames_framed {body rest : Bytes} {ending : Ending} (fits : body.length ≤ maxFrame)
    (done : List Reading) (byte : UInt8) (fuel : Bytes) :
    readFrames done (byte :: fuel) ⟨framed body ++ rest, ending⟩ =
      readFrames (readBody body :: done) fuel ⟨rest, ending⟩ := by
  rw [readFrames, readFrame_framed fits]
  rcases readBody_cases body with ⟨-, m, eq⟩ | ⟨-, m, eq⟩
  · rw [eq]
  · rw [eq]

/-- A broken frame is the last that is read. -/
lemma readFrames_broken {b rest : Bytes} {ending : Ending} {e : FrameError}
    (broken : Broken ending b e rest) (done : List Reading) (fuel : Bytes) :
    readFrames done fuel ⟨b, ending⟩ = ((.error e :: done).reverse, ⟨rest, ending⟩) := by
  rw [readFrames.eq_def, broken.readFrame]
  cases e with
  | malformed m => exact absurd rfl (broken.ne_malformed m)
  | _ => rfl

/-- The frames of a stream are its complete frames up to where it is broken, and the error there. -/
theorem frames_eq {bodies : List Bytes} {tail rest : Bytes} {ending : Ending} {e : FrameError}
    (fits : ∀ body ∈ bodies, body.length ≤ maxFrame) (broken : Broken ending tail e rest) :
    frames ⟨framedAll bodies ++ tail, ending⟩ =
      (bodies.map readBody ++ [.error e], ⟨rest, ending⟩) := by
  have read (done : List Reading) (fuel : Bytes) (enough : bodies.length ≤ fuel.length) :
      readFrames done fuel ⟨framedAll bodies ++ tail, ending⟩ =
        (done.reverse ++ bodies.map readBody ++ [.error e], ⟨rest, ending⟩) := by
    induction bodies generalizing done fuel with
    | nil =>
      rw [framedAll, List.flatMap_nil, List.nil_append, readFrames_broken broken]
      simp
    | cons body bodies ih =>
      obtain ⟨first, others⟩ := List.forall_mem_cons.mp fits
      cases fuel with
      | nil => cases enough
      | cons byte fuel =>
        rw [framedAll_cons, List.append_assoc, readFrames_framed first,
          ih others _ fuel (Nat.le_of_succ_le_succ enough)]
        simp
  exact read [] _ (length_le_framedAll bodies tail)

/-- Up to a place that complete frames lead to, the frames of a stream are those that were read. -/
theorem Readings.frames_eq (h : Readings x rs y) (complete : ∀ r ∈ rs, Complete r) :
    frames x = (rs ++ (frames y).1, (frames y).2) := by
  obtain ⟨bodies, fits, rfl, rfl⟩ := h.bodies complete
  obtain ⟨b, ending⟩ := y
  obtain ⟨later, tail, rfl, fits', stop⟩ := exists_frames ending (fun _ => False) b
  rcases stop with ⟨_, _, _, none, _⟩ | ⟨e, rest, broken⟩
  · exact none.elim
  · have small : ∀ body ∈ later, body.length ≤ maxFrame := fun body mem => (fits' body mem).1
    rw [Wire.frames_eq small broken, ← List.append_assoc, ← framedAll_append,
      Wire.frames_eq (List.forall_mem_append.mpr ⟨fits, small⟩) broken, List.map_append,
      List.append_assoc]

end Swarm.Wire
