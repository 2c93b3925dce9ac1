import Swarm.Proofs.Peer.Answer
import Swarm.Proofs.Wire.Heard
import Swarm.Proofs.Wire.Readings

/-!
# Steps of a session

Whatever is done with a session is made of three kinds of steps: a frame is read, something is sent,
or the session is given up. What every step keeps is therefore kept by all operations, and the
messages that the steps read are those between the places in the stream where they begin and end. A
download reads messages only, or messages up to a frame that is not one, over which it fails.
-/

namespace Swarm.Peer

open Swarm.Net (Link)
open Swarm.Time (Duration)
open Swarm.Wire

/-- A step, with what reading a frame results in, if it reads one. -/
inductive Step : Session → List Reading → Session → Prop where
  | next {s} :
    Step s [s.next.1] s.next.2
  | sent {s} b :
    Step s [] (s.sending b)
  | rejected {s} :
    Step s [] s.reject

/-- Steps in a row, with the results of their reads. -/
inductive Steps : Session → List Reading → Session → Prop where
  | nil {s} :
    Steps s [] s
  | cons {s rs t rs' u} :
    Step s rs t →
    Steps t rs' u →
    Steps s (rs ++ rs') u

/-- How a download reads: every frame is a message; or the last one is not, and then the download fails
on account of it and gives the session up. -/
inductive Course {α : Type} (s : Session) :
    List Reading → Except DownloadError α × Session → Prop where
  | heard {x t} (ms : List Message) :
    Steps s (ms.map .ok) t →
    Course s (ms.map .ok) (x, t)
  | failed {t e u} (ms : List Message) length limit :
    Steps s (ms.map .ok) t →
    t.next = (.error e, u) →
    Course s (ms.map .ok ++ [.error e]) (.error (frameFailure length limit e), u.reject)

variable {s t u : Session} {r : Reading} {rs rs' : List Reading}

/-- A step is a row of steps. -/
lemma Step.steps (h : Step s rs t) : Steps s rs t := by
  have one : Steps s (rs ++ []) t := .cons h .nil
  rwa [List.append_nil] at one

/-- Steps may be followed by others. -/
lemma Steps.trans (h : Steps s rs t) (h' : Steps t rs' u) : Steps s (rs ++ rs') u := by
  induction h with
  | nil => exact h'
  | cons step _ ih =>
    rw [List.append_assoc]
    exact .cons step (ih h')

/-! ## What steps read -/

namespace Session

/-- A session goes on in its stream and notes what it has read; unless that fails, it learns from it. -/
lemma next_cases (s : Session) :
    (∃ e rest, readFrame s.link.incoming = (.error e, rest) ∧
      s.next = (.error e, s.behind (.error e) rest)) ∨
    ∃ m rest, readFrame s.link.incoming = (.ok m, rest) ∧
      s.next = (.ok m, (s.behind (.ok m) rest).learn m) := by
  rw [next]
  rcases readFrame s.link.incoming with ⟨e | m, rest⟩
  · exact .inl ⟨e, rest, rfl, rfl⟩
  · exact .inr ⟨m, rest, rfl, rfl⟩

/-- A session reads the frames of its stream. -/
lemma next_readFrame (s : Session) :
    readFrame s.link.incoming = (s.next.1, s.next.2.link.incoming) := by
  rcases s.next_cases with ⟨e, rest, read, next⟩ | ⟨m, rest, read, next⟩
  · rw [next, read]
    rfl
  · rw [next, read, learn_link]
    rfl

/-- What is read is added to the log. -/
lemma next_log (s : Session) : s.next.2.log = s.next.1 :: s.log := by
  rcases s.next_cases with ⟨e, rest, -, next⟩ | ⟨m, rest, -, next⟩
  · rw [next]
    rfl
  · rw [next, learn_log]
    rfl

end Session

/-- A step adds what it reads to the log. -/
lemma Step.log (h : Step s rs t) : t.log = rs.reverse ++ s.log := by
  cases h with
  | next => exact s.next_log
  | sent | rejected => rfl

/-- Steps add what they read to the log. -/
theorem Steps.log (h : Steps s rs t) : t.log = rs.reverse ++ s.log := by
  induction h with
  | nil => rfl
  | cons step _ ih => rw [ih, step.log, List.reverse_append, List.append_assoc]

/-- The message that a step reads stands in the stream from where it begins to where it ends. -/
lemma Step.hears (h : Step s rs t) : Hears s.link.incoming (rs.flatMap said) t.link.incoming := by
  cases h with
  | next =>
    have one := Hears.single s.link.incoming
    rw [s.next_readFrame] at one
    rwa [List.flatMap_singleton]
  | sent | rejected => exact .nil

/-- The messages that steps read stand in the stream from where they begin to where they end. -/
theorem Steps.hears (h : Steps s rs t) :
    Hears s.link.incoming (rs.flatMap said) t.link.incoming := by
  induction h with
  | nil => exact .nil
  | cons step _ ih =>
    rw [List.flatMap_append]
    exact step.hears.trans ih

/-- What steps read is read frame after frame, from where they begin to where they end. -/
theorem Steps.readings (h : Steps s rs t) : Readings s.link.incoming rs t.link.incoming := by
  induction h with
  | nil => exact .nil
  | @cons s _ _ _ _ step _ ih =>
    cases step with
    | next =>
      have first := Readings.single s.link.incoming
      rw [s.next_readFrame] at first
      exact first.trans ih
    | sent | rejected => exact ih

/-! ## The course of a download -/

namespace Course

variable {α β : Type} {e : DownloadError} {y : Except DownloadError α × Session}

/-- A download is made of steps, which read what it reads. -/
lemma steps (h : Course s rs y) : Steps s rs y.2 := by
  cases h with
  | heard _ steps => exact steps
  | @failed t e u _ _ _ steps read =>
    have last : Step t [t.next.1] t.next.2 := .next
    rw [read] at last
    exact steps.trans (.cons last Step.rejected.steps)

/-- Messages may be read before a download. -/
lemma behind {ms : List Message} (h : Steps s (ms.map .ok) t) (h' : Course t rs y) :
    Course s (ms.map .ok ++ rs) y := by
  cases h' with
  | heard ms' steps =>
    have all := h.trans steps
    rw [← List.map_append] at all ⊢
    exact .heard _ all
  | failed ms' length limit steps read =>
    have all := h.trans steps
    rw [← List.append_assoc]
    rw [← List.map_append] at all ⊢
    exact .failed _ length limit all read

/-- A download that succeeds has read messages only. -/
lemma messages {a : α} (h : Course s rs (.ok a, t)) :
    ∃ ms : List Message, rs = ms.map .ok ∧ Steps s (ms.map .ok) t := by
  cases h with
  | heard ms steps => exact ⟨ms, rfl, steps⟩

/-- A failure may be passed on as that of a download of something else. -/
lemma passed_on (h : Course s rs ((.error e : Except DownloadError α), t)) :
    Course s rs ((.error e : Except DownloadError β), t) := by
  cases h with
  | heard ms steps => exact .heard ms steps
  | failed ms length limit steps read => exact .failed ms length limit steps read

end Course

namespace Session

/-- Reading a frame is a step. -/
lemma next_steps (h : s.next = (r, t)) : Steps s [r] t := by
  have step : Step s [s.next.1] s.next.2 := .next
  rw [h] at step
  exact step.steps

/-- Reading a message is a step that reads messages only. -/
lemma next_message {m : Message} (h : s.next = (.ok m, t)) : Steps s ([m].map .ok) t :=
  next_steps h

/-- What is sent is added to what was sent before, and takes up one of the writes. -/
lemma link_of_send {l l' : Link} {b : Bytes} (h : l.send b = .ok l') :
    l' = { l with sent := l.sent ++ b, writes := l.writes.map (· - 1) } := by
  by_cases writes : l.writes = some 0
  · rw [Link.send, writes] at h
    cases h
  · rw [Link.send_of_writes writes] at h
    cases h
    rfl

/-- A message is sent as its frame. -/
lemma eq_sending {m : Message} (h : s.send m = .ok t) : t = s.sending m.frame := by
  rw [send] at h
  split at h
  · rename_i link sent
    cases h
    rw [link_of_send sent]
    rfl
  · cases h

/-- The wait for a block reads messages up to the one that ends it, or up to a frame that fails. -/
lemma awaitBlock_course (index start : UInt32) (length : Nat) (limit : Duration) (fuel : Bytes)
    (s : Session) : ∃ rs, Course s rs (s.awaitBlock index start length limit fuel) := by
  fun_induction awaitBlock index start length limit fuel s with
  | case1 _ _ _ _ read => exact ⟨_, .failed [] length limit .nil read⟩
  | case2 _ _ _ read | case3 _ _ _ _ read | case4 _ _ _ _ read =>
    exact ⟨_, .heard _ (next_message read)⟩
  | case5 _ m _ read => exact ⟨_, .heard [m] ((next_message read).trans Step.rejected.steps)⟩
  | case6 _ m _ read _ _ _ _ ih =>
    obtain ⟨rs, course⟩ := ih
    exact ⟨_, course.behind (next_message read)⟩

/-- A request reads what the wait for its block reads, if it is sent. -/
theorem requestBlock_course (index start : UInt32) (length : Nat) (limit : Duration) (s : Session) :
    ∃ rs, Course s rs (s.requestBlock index start length limit) := by
  rcases requestBlock_cases index start length limit s with
    ⟨e, -, refused⟩ | ⟨f, unsent⟩ | ⟨-, -, -, -, waited⟩
  · rw [refused]
    exact ⟨_, .heard [] .nil⟩
  · rw [unsent]
    exact ⟨_, .heard [] Step.rejected.steps⟩
  · rw [waited]
    set t := s.sending (Message.request index start (UInt32.ofNat length)).frame
    obtain ⟨rs, course⟩ := awaitBlock_course index start length limit s.link.incoming.unread t
    have sent : Steps s ([].map .ok) t := (Step.sent _).steps
    exact ⟨_, course.behind sent⟩

/-- The blocks of a piece are read one after the other, up to the first request that fails. -/
lemma fetchBlocks_course (config : DownloadConfig) (positive : config.blockSize ≠ 0)
    (index : UInt32) (pieceLength : Nat) (done : List Bytes) (start : Nat) (s : Session) :
    ∃ rs, Course s rs (s.fetchBlocks config positive index pieceLength done start) := by
  fun_induction fetchBlocks config positive index pieceLength done start s with
  | case1 done start s _ length e t run =>
    obtain ⟨rs, course⟩ :=
      requestBlock_course index (UInt32.ofNat start) length config.blockTimeout s
    rw [run] at course
    exact ⟨rs, course.passed_on⟩
  | case2 done start s _ length block t run ih =>
    obtain ⟨rs, course⟩ :=
      requestBlock_course index (UInt32.ofNat start) length config.blockTimeout s
    rw [run] at course
    obtain ⟨ms, -, steps⟩ := course.messages
    obtain ⟨rs', course'⟩ := ih
    exact ⟨_, course'.behind steps⟩
  | case3 => exact ⟨_, .heard [] .nil⟩

/-- A piece is read as its blocks are. -/
theorem downloadPiece_course (config : DownloadConfig) (index : UInt32) (pieceLength : Nat)
    (s : Session) : ∃ rs, Course s rs (s.downloadPiece config index pieceLength) := by
  fun_cases downloadPiece config index pieceLength s with
  | case1 | case2 => exact ⟨_, .heard [] .nil⟩
  | case3 positive _ e t run =>
    obtain ⟨rs, course⟩ := fetchBlocks_course config positive index pieceLength [] 0 s
    rw [run] at course
    exact ⟨rs, course.passed_on⟩
  | case4 positive _ blocks t run =>
    obtain ⟨rs, course⟩ := fetchBlocks_course config positive index pieceLength [] 0 s
    rw [run] at course
    obtain ⟨ms, -, steps⟩ := course.messages
    exact ⟨_, .heard ms steps⟩

end Session

end Swarm.Peer
