import Swarm.Proofs.Wire.Framing

/-!
# The messages in a stream

Two places in a stream bound the messages between them: those that are read on the way from the one
to the other. A frame that fails says nothing, and no reading goes back.
-/

namespace Swarm.Wire
open Swarm.Net (Ending Stream)

/-- The message that reading a frame results in, if it does. -/
def said : Reading → List Message
  | .ok m => [m]
  | .error _ => []

/-- The messages that are read before no more than `left` bytes are unread. A byte of `fuel` a frame
is enough. -/
def heardUntil (left : Nat) : (fuel : Bytes) → Stream → List Message
  | [], _ => []
  | _ :: fuel, x =>
    if x.unread.length ≤ left then []
    else said (readFrame x).1 ++ heardUntil left fuel (readFrame x).2

/-- The messages between two places in a stream. -/
def heard (before after : Stream) : List Message :=
  heardUntil after.unread.length before.unread before

/-- Frames are read one after the other, and these are the messages among them. -/
inductive Hears : Stream → List Message → Stream → Prop where
  | nil {x} :
    Hears x [] x
  | read {x ms y} :
    Hears (readFrame x).2 ms y →
    Hears x (said (readFrame x).1 ++ ms) y

variable {x y z : Stream} {ms ms' : List Message}

/-- Reading takes bytes off a stream as long as there are any. -/
lemma readFrame_shorter (unread : x.unread ≠ []) :
    (readFrame x).2.unread.length < x.unread.length := by
  obtain ⟨b, ending⟩ := x
  rcases framed_or_broken ending b with ⟨body, rest, fits, rfl⟩ | ⟨e, rest, broken⟩
  · rw [readFrame_framed fits]
    simp only [framed, List.length_append, Bytes.length_word]
    omega
  · rw [broken.readFrame]
    cases broken with
    | ended => exact List.length_pos_of_ne_nil unread
    | oversized | cut =>
      simp only [List.length_append, Bytes.length_word, List.length_nil]
      omega

/-- At the end of a stream there is nothing to read. -/
lemma readFrame_ended (ended : x.unread = []) : ∃ e, readFrame x = (.error e, x) := by
  obtain ⟨b, ending⟩ := x
  obtain rfl : b = [] := ended
  exact ⟨_, rfl⟩

namespace Hears

/-- One frame is heard. -/
lemma single (x : Stream) : Hears x (said (readFrame x).1) (readFrame x).2 := by
  have one : Hears x (said (readFrame x).1 ++ []) (readFrame x).2 := .read .nil
  rwa [List.append_nil] at one

/-- What is heard up to a place and from there on is heard in all. -/
lemma trans (h : Hears x ms y) (h' : Hears y ms' z) : Hears x (ms ++ ms') z := by
  induction h with
  | nil => exact h'
  | read _ ih =>
    rw [List.append_assoc]
    exact .read (ih h')

/-- Complete frames are read one after the other. -/
lemma frames {p bodies} (fits : Without p bodies) (tail : Bytes) (ending : Ending) :
    ∃ ms, Hears ⟨framedAll bodies ++ tail, ending⟩ ms ⟨tail, ending⟩ := by
  induction bodies with
  | nil => exact ⟨[], .nil⟩
  | cons body bodies ih =>
    obtain ⟨⟨fits, -⟩, others⟩ := List.forall_mem_cons.mp fits
    obtain ⟨ms, later⟩ := ih others
    rw [framedAll_cons, List.append_assoc]
    have first := single ⟨framed body ++ (framedAll bodies ++ tail), ending⟩
    rw [readFrame_framed fits] at first
    exact ⟨_, first.trans later⟩

/-- What was read does not come back. -/
lemma le (h : Hears x ms y) : y.unread.length ≤ x.unread.length := by
  induction h with
  | nil => exact Nat.le_refl _
  | @read x _ _ _ ih =>
    by_cases ended : x.unread = []
    · obtain ⟨e, stays⟩ := readFrame_ended ended
      rwa [stays] at ih
    · have shorter := readFrame_shorter ended
      omega

/-- Enough fuel hears everything up to a place. -/
lemma heardUntil_eq {fuel : Bytes} (h : Hears x ms y)
    (enough : x.unread.length ≤ fuel.length) : heardUntil y.unread.length fuel x = ms := by
  induction h generalizing fuel with
  | nil =>
    cases fuel with
    | nil => rfl
    | cons => rw [heardUntil, if_pos (Nat.le_refl _)]
  | @read x ms y later ih =>
    -- a reading at the end of the stream adds nothing and may be repeated at will
    by_cases ended : x.unread = []
    · obtain ⟨e, stays⟩ := readFrame_ended ended
      rw [stays] at ih ⊢
      exact ih enough
    · have shorter := readFrame_shorter ended
      have before : ¬ x.unread.length ≤ y.unread.length := by
        have le := later.le
        omega
      cases fuel with
      | nil =>
        simp only [List.length_nil] at enough
        omega
      | cons byte fuel =>
        rw [List.length_cons] at enough
        rw [heardUntil, if_neg before, ih (by omega)]

/-- The messages that are read from one place to another are those between the two. -/
theorem heard_eq (h : Hears x ms y) : heard x y = ms := h.heardUntil_eq (Nat.le_refl _)

end Hears

/-- Where more is unread than before, nothing was heard. -/
lemma heard_of_le (h : x.unread.length ≤ y.unread.length) : heard x y = [] := by
  rw [heard]
  cases x.unread with
  | nil => rfl
  | cons => rw [heardUntil, if_pos h]

end Swarm.Wire
