import Mathlib.Data.List.Basic
import Swarm.Proofs.Word
import Swarm.Wire.Frame

/-!
# Streams as frames

A frame is a body after the number of its bytes, and the body is an id and a payload, or nothing. A
stream begins with a complete frame within the limit or is broken there, and so it splits at the
first frame of any kind that is looked for.
-/

namespace Swarm.Wire
open Swarm.Net (Ending Fault Stream)

/-- The frame of a body. -/
def framed (body : Bytes) : Bytes := Bytes.word 4 body.length ++ body

/-- The frames of bodies in a row. -/
def framedAll (bodies : List Bytes) : Bytes := bodies.flatMap framed

/-- The frame of the first body stands in front. -/
@[simp] lemma framedAll_cons (body : Bytes) (bodies : List Bytes) :
    framedAll (body :: bodies) = framed body ++ framedAll bodies := List.flatMap_cons

/-- Bodies can be framed in two goes. -/
@[simp] lemma framedAll_append (before after : List Bytes) :
    framedAll (before ++ after) = framedAll before ++ framedAll after := List.flatMap_append

/-- A frame is four bytes longer than its body. -/
lemma length_framed (body : Bytes) : (framed body).length = 4 + body.length := by
  rw [framed, List.length_append, Bytes.length_word]

/-- Different bodies have different frames. -/
lemma framed_inj {body body' : Bytes} : framed body = framed body' ↔ body = body' := by
  constructor
  · intro h
    exact (List.append_inj h (by rw [Bytes.length_word, Bytes.length_word])).2
  · rintro rfl
    rfl

/-- The frames of the bodies are within the limit, and none of the bodies is of this kind. -/
def Without (p : Bytes → Prop) (bodies : List Bytes) : Prop :=
  ∀ body ∈ bodies, body.length ≤ maxFrame ∧ ¬ p body

/-- What a body says. -/
def readBody : Bytes → Except FrameError Message
  | [] => .ok .keepAlive
  | id :: payload => (Message.ofPayload id payload).mapError .malformed

/-- No complete frame within the limit comes next; why, and what stays unread. -/
inductive Broken (ending : Ending) : Bytes → FrameError → Bytes → Prop where
  | ended {b} :
    b.length < 4 →
    Broken ending b (starved ⟨b, ending⟩ (.fault .endOfFile)) []
  | oversized {n rest} :
    maxFrame < n →
    n < 2 ^ 32 →
    Broken ending (Bytes.word 4 n ++ rest) (.tooLarge n) rest
  | cut {n part} :
    n ≤ maxFrame →
    part.length < n →
    Broken ending (Bytes.word 4 n ++ part) (starved ⟨part, ending⟩ (.truncated n part.length)) []

/-! ## Reading one frame -/

/-- What comes after a length is read by that length. -/
lemma readFrame_word {n : Nat} (hn : n < 2 ^ 32) (rest : Bytes) (ending : Ending) :
    readFrame ⟨Bytes.word 4 n ++ rest, ending⟩ =
      if n = 0 then (.ok .keepAlive, ⟨rest, ending⟩)
      else if maxFrame < n then (.error (.tooLarge n), ⟨rest, ending⟩)
      else if rest.length < n then
        (.error (starved ⟨rest, ending⟩ (.truncated n rest.length)), ⟨[], ending⟩)
      else (readBody (rest.take n), ⟨rest.drop n, ending⟩) := by
  obtain ⟨a, b, c, d, hw⟩ : ∃ a b c d, Bytes.word 4 n = [a, b, c, d] := ⟨_, _, _, _, rfl⟩
  have number : Bytes.number [a, b, c, d] = n := by
    rw [← hw, Bytes.number_word]
    exact Nat.mod_eq_of_lt hn
  rw [hw]
  simp only [readFrame, List.cons_append, List.nil_append, number]
  by_cases zero : n = 0
  · rw [if_pos zero, if_pos zero]
  rw [if_neg zero, if_neg zero]
  by_cases large : maxFrame < n
  · rw [if_pos large, if_pos large]
  rw [if_neg large, if_neg large]
  have len : (rest.take n).length = min n rest.length := List.length_take
  -- the id is read on its own, so the bytes of the frame are looked at one by one
  cases taken : rest.take n with
  | nil =>
    have none : rest.length = 0 := by
      rw [taken, List.length_nil] at len
      omega
    obtain rfl : rest = [] := List.length_eq_zero_iff.mp none
    rw [if_pos (by simpa using Nat.pos_of_ne_zero zero)]
    rfl
  | cons id payload =>
    rw [taken, List.length_cons] at len
    by_cases short : rest.length < n
    · have all : payload.length + 1 = rest.length := by omega
      rw [if_pos short]
      simp only [all, if_pos short]
      rfl
    · have enough : ¬ payload.length + 1 < n := by omega
      rw [if_neg short]
      simp only [if_neg enough]
      rfl

/-- A complete frame is read for what its body says. -/
lemma readFrame_framed {body : Bytes} (fits : body.length ≤ maxFrame) (rest : Bytes)
    (ending : Ending) :
    readFrame ⟨framed body ++ rest, ending⟩ = (readBody body, ⟨rest, ending⟩) := by
  have small : body.length < 2 ^ 32 := Nat.lt_of_le_of_lt fits (by decide)
  rw [framed, List.append_assoc, readFrame_word small]
  by_cases empty : body.length = 0
  · obtain rfl : body = [] := List.length_eq_zero_iff.mp empty
    rfl
  · have enough : ¬ (body ++ rest).length < body.length := by simp
    rw [if_neg empty, if_neg (Nat.not_lt.mpr fits), if_neg enough, List.take_left, List.drop_left]

/-- Where no complete frame comes next, reading fails. -/
lemma Broken.readFrame {ending b e rest} (h : Broken ending b e rest) :
    readFrame ⟨b, ending⟩ = (.error e, ⟨rest, ending⟩) := by
  cases h with
  | ended short =>
    match b, short with
    | [], _ => rfl
    | [_], _ => rfl
    | [_, _], _ => rfl
    | [_, _, _], _ => rfl
    | _ :: _ :: _ :: _ :: _, h => simp at h; omega
  | @oversized n _ large small =>
    have positive : n ≠ 0 := by omega
    rw [readFrame_word small, if_neg positive, if_pos large]
  | @cut n _ fits short =>
    have small : n < 2 ^ 32 := Nat.lt_of_le_of_lt fits (by decide)
    have positive : n ≠ 0 := by omega
    rw [readFrame_word small, if_neg positive, if_neg (Nat.not_lt.mpr fits), if_pos short]

/-- Broken frames are not merely malformed. -/
lemma Broken.ne_malformed {ending b e rest} (h : Broken ending b e rest) (m : Malformed) :
    e ≠ .malformed m := by
  cases h with
  | oversized => nofun
  | ended | cut => cases ending <;> nofun

/-! ## Splitting a stream -/

/-- There are no more frames than bytes. -/
lemma length_le_framedAll (bodies : List Bytes) (tail : Bytes) :
    bodies.length ≤ (framedAll bodies ++ tail).length := by
  induction bodies with
  | nil => simp
  | cons body bodies ih =>
    simp only [framedAll_cons, framed, List.length_append, Bytes.length_word,
      List.length_cons] at ih ⊢
    omega

/-- A stream begins with a complete frame within the limit, or is broken there. -/
theorem framed_or_broken (ending : Ending) (b : Bytes) :
    (∃ body rest, body.length ≤ maxFrame ∧ b = framed body ++ rest) ∨
      ∃ e rest, Broken ending b e rest := by
  by_cases short : b.length < 4
  · exact .inr ⟨_, _, .ended short⟩
  obtain ⟨w, rest, rfl, hw⟩ : ∃ w rest, b = w ++ rest ∧ w.length = 4 :=
    ⟨b.take 4, b.drop 4, (List.take_append_drop 4 b).symm, by rw [List.length_take]; omega⟩
  have word : w = Bytes.word 4 w.number := by
    rw [← hw, Bytes.word_number]
  have small : w.number < 2 ^ 32 := by
    have lt := Bytes.number_lt w
    rwa [hw] at lt
  rw [word]
  by_cases large : maxFrame < w.number
  · exact .inr ⟨_, _, .oversized large small⟩
  by_cases cut : rest.length < w.number
  · exact .inr ⟨_, _, .cut (Nat.not_lt.mp large) cut⟩
  · have len : (rest.take w.number).length = w.number := by
      rw [List.length_take]
      omega
    refine .inl ⟨rest.take w.number, rest.drop w.number, by omega, ?_⟩
    rw [framed, len, List.append_assoc, List.take_append_drop]

/-- Frames without one kind of body are without another, or there is a first of that kind. -/
lemma Without.first {p : Bytes → Prop} {bodies : List Bytes} (h : Without p bodies)
    (q : Bytes → Prop) :
    Without q bodies ∨ ∃ before body after, bodies = before ++ body :: after ∧
      Without q before ∧ body.length ≤ maxFrame ∧ q body ∧ ¬ p body ∧ Without p after := by
  induction bodies with
  | nil => exact .inl (by simp [Without])
  | cons head bodies ih =>
    obtain ⟨⟨fits, other⟩, others⟩ := List.forall_mem_cons.mp h
    by_cases found : q head
    · exact .inr ⟨[], head, bodies, rfl, by simp [Without], fits, found, other, others⟩
    rcases ih others with none | ⟨before, body, after, rfl, none, rest⟩
    · exact .inl (List.forall_mem_cons.mpr ⟨⟨fits, found⟩, none⟩)
    · exact .inr ⟨head :: before, body, after, rfl,
        List.forall_mem_cons.mpr ⟨⟨fits, found⟩, none⟩, rest⟩

/-- A stream is complete frames up to one of a certain kind, or up to where it is broken. -/
theorem exists_frames (ending : Ending) (p : Bytes → Prop) (b : Bytes) :
    ∃ bodies tail, b = framedAll bodies ++ tail ∧ Without p bodies ∧
      ((∃ body rest, body.length ≤ maxFrame ∧ p body ∧ tail = framed body ++ rest) ∨
        ∃ e rest, Broken ending tail e rest) := by
  -- what follows a frame is shorter, since its length is written before it
  induction h : b.length using Nat.strongRecOn generalizing b with
  | ind size ih =>
    rcases framed_or_broken ending b with ⟨body, rest, fits, rfl⟩ | broken
    · by_cases hp : p body
      · exact ⟨[], _, rfl, by simp [Without], .inl ⟨body, rest, fits, hp, rfl⟩⟩
      · have shorter : rest.length < size := by
          rw [← h, framed]
          simp only [List.length_append, Bytes.length_word]
          omega
        obtain ⟨bodies, tail, rfl, all, stop⟩ := ih _ shorter rest rfl
        refine ⟨body :: bodies, tail, ?_, ?_, stop⟩
        · rw [framedAll_cons, List.append_assoc]
        · exact List.forall_mem_cons.mpr ⟨⟨fits, hp⟩, all⟩
    · exact ⟨[], b, rfl, by simp [Without], .inr broken⟩

end Swarm.Wire
