import Swarm.Proofs.Peer.Lifetime
import Swarm.Proofs.Wire.Readings

/-!
# What operations read

Every operation takes frames off the stream one after the other and leaves the stream right behind the
last of them, whether it succeeds or not. So operations in a row read what a single pass over the stream
reads, and the next one goes on where the pass stands. An operation that succeeds, or fails for another
reason than a frame that is not there in full, stays between frames.
-/

namespace Swarm.Peer

open Swarm.Net (Endpoint Link Stream)
open Swarm.Time (Duration)
open Swarm.Wire

/-- The failures that leave the stream between two frames, with the session after them: a block of the
wrong size does not give the session up, but one that is cut short does. -/
def DownloadError.mild (t : Session) : DownloadError → Bool
  | .choked | .notUnchoked | .invalidRequest _ | .protocol (.malformed _) => true
  | .shortBlock _ _ => t.state ≠ .rejected
  | _ => false

/-- A download succeeds, or fails in a way that leaves the stream between two frames. -/
def mildly {α : Type} : Except DownloadError α × Session → Bool
  | (.ok _, _) => true
  | (.error e, t) => e.mild t

namespace Session

/-- What is read in an event, as the session notes it. -/
def reads (s : Session) (e : Event) : List Reading :=
  ((s.after e).log.take ((s.after e).log.length - s.log.length)).reverse

/-- What is done with a session succeeds, or fails in a way that leaves the stream between two
frames. -/
def mild (s : Session) : Event → Bool
  | .next =>
    match s.next.1 with
    | .ok _ | .error (.malformed _) => true
    | .error _ => false
  | .requestBlock index start length limit => mildly (s.requestBlock index start length limit)
  | .requestPiece index blockSize => mildly (s.requestPiece index blockSize)
  | .downloadPiece config index pieceLength => mildly (s.downloadPiece config index pieceLength)
  | .send _ | .reject | .arrival _ _ => true

/-- Events in a row leave the stream between two frames, each of them. -/
def mildIn : List Event → Session → Bool
  | [], _ => true
  | e :: events, s => s.mild e && mildIn events (s.after e)

end Session

/-- Frames are read with these results, and whatever else is done in between touches neither the stream
nor what is kept of the frames that were read. -/
inductive Reads : Session → List Reading → Session → Prop where
  | nil {s} :
    Reads s [] s
  | next {s rs t} :
    Reads s.next.2 rs t →
    Reads s (s.next.1 :: rs) t
  | apart {s u rs t} :
    Reads u rs t →
    u.link.incoming = s.link.incoming →
    u.pieces = s.pieces →
    u.log = s.log →
    Reads s rs t

/-- Frames are read on the way from one session to another, all of them in full if this ends well. -/
def Passage (well : Prop) (s t : Session) : Prop :=
  ∃ rs, Reads s rs t ∧ (well → ∀ r ∈ rs, Complete r)

variable {s t u : Session} {r : Reading} {rs rs' : List Reading} {limit : Duration} {well : Prop}

/-! ## Reads in a row -/

/-- More may be read after some reads. -/
lemma Reads.trans (h : Reads s rs t) (h' : Reads t rs' u) : Reads s (rs ++ rs') u := by
  induction h with
  | nil => exact h'
  | next _ ih => exact .next (ih h')
  | apart _ incoming pieces log ih => exact .apart (ih h') incoming pieces log

/-- The results of the reads are those of reading frame after frame from the one place in the stream
to the other. -/
theorem Reads.readings (h : Reads s rs t) : Readings s.link.incoming rs t.link.incoming := by
  induction h with
  | nil => exact .nil
  | @next s rs t _ ih =>
    have first := Readings.single s.link.incoming
    rw [s.next_readFrame] at first
    exact first.trans ih
  | apart _ incoming _ _ ih => rwa [← incoming]

/-- The results of the reads are added to the log. -/
theorem Reads.log (h : Reads s rs t) : t.log = rs.reverse ++ s.log := by
  induction h with
  | nil => rfl
  | @next s _ _ _ ih =>
    rw [ih, s.next_log, List.reverse_cons, List.append_assoc, List.singleton_append]
  | apart _ _ _ log ih => rw [ih, log]

/-- Steps are reads, with nothing in between that touches the stream. -/
theorem Steps.reads (h : Steps s rs t) : Reads s rs t := by
  induction h with
  | nil => exact .nil
  | cons step _ ih =>
    cases step with
    | next => exact .next ih
    | sent | rejected => exact .apart ih rfl rfl rfl

namespace Passage

/-- Nothing need be read. -/
lemma refl (s : Session) : Passage well s s := ⟨[], .nil, fun _ => by simp⟩

/-- What touches neither the stream nor what is kept of the frames may come first. -/
lemma apart (h : Passage well u t) (incoming : u.link.incoming = s.link.incoming)
    (pieces : u.pieces = s.pieces) (log : u.log = s.log) : Passage well s t := by
  obtain ⟨rs, reads, complete⟩ := h
  exact ⟨rs, .apart reads incoming pieces log, complete⟩

/-- Frames that are read in full may come before others. -/
lemma after (h : Passage True s t) (h' : Passage well t u) : Passage well s u := by
  obtain ⟨rs, reads, complete⟩ := h
  obtain ⟨rs', reads', complete'⟩ := h'
  exact ⟨rs ++ rs', reads.trans reads', fun ends =>
    List.forall_mem_append.mpr ⟨complete trivial, complete' ends⟩⟩

/-- One frame may be read. -/
lemma single (h : s.next = (r, t)) (complete : well → Complete r) : Passage well s t := by
  refine ⟨[r], (Session.next_steps h).reads, fun ends => ?_⟩
  exact List.forall_mem_singleton.mpr (complete ends)

end Passage

/-! ## Setting up -/

namespace Session

/-- A wait for a message passes complete frames over and ends with one, unless it fails. -/
lemma awaitMessage_passage (limit : Duration) (fuel : Bytes) (s : Session) :
    Passage (s.awaitMessage limit fuel).1.isOk s (s.awaitMessage limit fuel).2 := by
  fun_induction awaitMessage limit fuel s with
  | case1 _ _ read | case3 _ _ _ read | case6 _ _ _ read | case7 _ _ _ _ read
  | case8 _ _ _ _ _ _ _ read => exact .single read (absurd · Bool.false_ne_true)
  | case2 _ _ read _ _ ih => exact .after (.single read fun _ => complete_ok _) ih
  | case4 _ m _ read _ _ ih => exact .after (.single read fun _ => complete_malformed m) ih
  | case5 _ _ m _ _ read => exact .single read fun _ => complete_ok m

/-- Up to a message that was waited for all frames are complete. -/
lemma awaitAny_passage {m : Message} (h : s.awaitAny limit = (.ok m, t)) : Passage True s t := by
  have passage := awaitMessage_passage limit s.link.incoming.unread s
  rw [← awaitAny, h] at passage
  obtain ⟨rs, reads, complete⟩ := passage
  exact ⟨rs, reads, fun _ => complete rfl⟩

/-- Up to the unchoke all frames are complete. -/
lemma awaitUnchoke_passage {fuel : Bytes} (h : s.awaitUnchoke limit fuel = (.ok (), t)) :
    Passage True s t := by
  revert h
  fun_induction awaitUnchoke limit fuel s with
  | case1 | case3 =>
    intro h
    cases h
  | case2 _ _ _ awaited =>
    intro h
    cases h
    exact (awaitAny_passage awaited).after ((Passage.refl _).apart rfl rfl rfl)
  | case4 _ _ _ _ awaited _ _ ih =>
    intro h
    exact (awaitAny_passage awaited).after (ih h)

/-- From the first message to the unchoke all frames are complete. -/
lemma declareInterest_passage (h : s.declareInterest limit = (.ok (), t)) : Passage True s t := by
  revert h
  fun_cases declareInterest limit s with
  | case1 | case2 => rintro ⟨⟩
  | case3 _ _ sent _ awaited =>
    obtain rfl := eq_sending sent
    rintro ⟨⟩
    exact (awaitAny_passage awaited).after ((Passage.refl _).apart rfl rfl rfl)
  | case4 _ _ awaited _ sent =>
    obtain rfl := eq_sending sent
    intro h
    exact (awaitAny_passage awaited).after ((awaitUnchoke_passage h).apart rfl rfl rfl)

/-- The handshake is not noted among the frames, and tells of no pieces. -/
lemma readHandshake_kept {infoHash} (h : s.readHandshake infoHash limit = (.ok (), t)) :
    t.pieces = s.pieces ∧ t.log = s.log := by
  revert h
  fun_cases readHandshake infoHash limit s with
  | case1 | case2 | case4 => rintro ⟨⟩
  | case3 =>
    rintro ⟨⟩
    exact ⟨rfl, rfl⟩

/-- The frames that are read to establish a session are complete, and stand behind the handshake. -/
lemma establish_passage {infoHash peerId} (h : s.establish infoHash peerId limit = (.ok (), t)) :
    Passage True (s.leaving ⟨s.link.incoming.unread.drop Handshake.size, s.link.incoming.ending⟩)
      t := by
  revert h
  fun_cases establish infoHash peerId limit s with
  | case1 | case2 => rintro ⟨⟩
  | case3 _ sent _ shaken =>
    obtain rfl := link_of_send sent
    intro h
    have incoming := readHandshake_incoming shaken
    obtain ⟨pieces, log⟩ := readHandshake_kept shaken
    exact (declareInterest_passage h).apart incoming pieces log

/-- The frames that are read to set up a session are complete, and stand behind the handshake. -/
theorem connect_passage {peer infoHash peerId} {link : Link}
    (h : connect peer infoHash peerId limit link = .ok s) :
    Passage True
      ((opened peer link).leaving ⟨link.incoming.unread.drop Handshake.size, link.incoming.ending⟩)
      s := by
  revert h
  fun_cases connect peer infoHash peerId limit link with
  | case1 _ established =>
    rintro ⟨⟩
    exact establish_passage established
  | case2 => rintro ⟨⟩

/-! ## Events -/

/-- What is added to the log in an event is what is read in it. -/
lemma reads_eq {event : Event} (h : (s.after event).log = rs.reverse ++ s.log) :
    s.reads event = rs := by
  rw [reads, h, List.length_append, Nat.add_sub_cancel, List.take_left, List.reverse_reverse]

/-- What is read in an event leads from the session before it to the session after it, unless the
peer sends more. -/
lemma after_reads (s : Session) (event : Event)
    (still : ∀ more ending, event ≠ .arrival more ending) :
    Reads s (s.reads event) (s.after event) := by
  rcases s.after_cases event with ⟨rs, steps⟩ | ⟨more, ending, arrived⟩
  · rw [reads_eq steps.log]
    exact steps.reads
  · exact absurd arrived (still more ending)

/-- In an event a frame is read on its own, or those of a download are read, or none. -/
lemma reads_cases (s : Session) (event : Event) :
    event = .next ∧ s.reads event = [s.next.1] ∨
    (∃ y : Except DownloadError Bytes × Session,
      Course s (s.reads event) y ∧ s.after event = y.2 ∧ s.mild event = mildly y) ∨
    s.reads event = [] := by
  have course {y : Except DownloadError Bytes × Session} (after : s.after event = y.2)
      (mild : s.mild event = mildly y) (h : ∃ rs, Course s rs y) :
      ∃ y : Except DownloadError Bytes × Session,
        Course s (s.reads event) y ∧ s.after event = y.2 ∧ s.mild event = mildly y := by
    obtain ⟨rs, course⟩ := h
    have log := course.steps.log
    rw [← after] at log
    rw [reads_eq log]
    exact ⟨y, course, after, mild⟩
  cases event with
  | next => exact .inl ⟨rfl, reads_eq s.next_log⟩
  | send m =>
    refine .inr (.inr (reads_eq ?_))
    rw [after]
    split
    · rename_i sent
      rw [eq_sending sent]
      rfl
    · rfl
  | requestBlock index start length limit =>
    exact .inr (.inl (course rfl rfl (requestBlock_course index start length limit s)))
  | requestPiece index blockSize =>
    exact .inr (.inl (course rfl rfl (requestBlock_course index 0 blockSize _ s)))
  | downloadPiece config index pieceLength =>
    exact .inr (.inl (course rfl rfl (downloadPiece_course config index pieceLength s)))
  | reject | arrival => exact .inr (.inr (reads_eq rfl))

/-- A request that fails mildly on account of a frame has read it in full. -/
lemma complete_of_mild {length : Nat} {e : FrameError} (t : Session)
    (mild : (frameFailure length limit e).mild t.reject) : Complete (.error e) := by
  cases e with
  | malformed m => exact complete_malformed m
  | truncated => simp [frameFailure, DownloadError.mild, reject] at mild
  | _ => cases mild

/-- In an event that ends mildly all frames are complete. -/
lemma reads_complete {event : Event} (mild : s.mild event) : ∀ r ∈ s.reads event, Complete r := by
  rcases s.reads_cases event with ⟨rfl, reads⟩ | ⟨y, course, -, same⟩ | none
  · rw [reads]
    refine List.forall_mem_singleton.mpr fun e failed => ?_
    rw [Session.mild, failed] at mild
    cases e with
    | malformed m => exact ⟨m, rfl⟩
    | _ => cases mild
  · rw [same] at mild
    generalize s.reads event = rs at course
    cases course with
    | heard => simp [complete_ok]
    | failed ms length limit _ read =>
      -- the only read that can be incomplete, and then the failure is not mild
      refine List.forall_mem_append.mpr ⟨by simp [complete_ok], ?_⟩
      exact List.forall_mem_singleton.mpr (complete_of_mild _ mild)
  · rw [none]
    nofun

/-- Without arrivals, events in a row go on in the stream, over complete frames if all end mildly. -/
theorem run_passage (events : List Event) (s : Session)
    (still : ∀ more ending, .arrival more ending ∉ events) :
    Passage (mildIn events s) s (s.run events) := by
  induction events generalizing s with
  | nil => exact .refl s
  | cons event events ih =>
    have first : ∀ more ending, event ≠ .arrival more ending := fun more ending eq =>
      still more ending (by simp [eq])
    have others : ∀ more ending, .arrival more ending ∉ events := fun more ending mem =>
      still more ending (List.mem_cons_of_mem _ mem)
    obtain ⟨rs, reads, complete⟩ := ih (s.after event) others
    refine ⟨_, (s.after_reads event first).trans reads, fun mild => ?_⟩
    obtain ⟨mild, milds⟩ := Bool.and_eq_true_iff.mp mild
    exact List.forall_mem_append.mpr ⟨reads_complete mild, complete milds⟩

/-- The frames that are read to set up a session and then in any events are read one after the other
from behind the handshake, and the session goes on behind the last of them. As long as no operation
fails on account of a frame that is not there in full, these frames are the first of all frames of the
stream, and what is unread is exactly what follows them. -/
theorem run_frames {peer : Endpoint} {infoHash peerId : Ident} {limit : Duration} {link : Link}
    {opened : Session} (events : List Event) (still : ∀ more ending, .arrival more ending ∉ events)
    (ok : connect peer infoHash peerId limit link = .ok opened) :
    let x : Stream := ⟨link.incoming.unread.drop Handshake.size, link.incoming.ending⟩
    let read := (opened.run events).log.reverse
    let y := (opened.run events).link.incoming
    Readings x read y ∧
      (mildIn events opened →
        frames x = (read ++ (frames y).1, (frames y).2) ∧
        ∃ bodies, (∀ body ∈ bodies, body.length ≤ maxFrame) ∧ read = bodies.map readBody ∧
          x = ⟨framedAll bodies ++ y.unread, y.ending⟩) := by
  intro x read y
  obtain ⟨rs, reads, complete⟩ := connect_passage ok
  obtain ⟨rs', reads', complete'⟩ := run_passage events opened still
  have log := (reads.trans reads').log
  have same : read = rs ++ rs' := by
    rw [show read = _ from congrArg List.reverse log]
    simp [leaving, Session.opened]
  have readings : Readings x (rs ++ rs') y := (reads.trans reads').readings
  rw [same]
  refine ⟨readings, fun mild => ?_⟩
  have all : ∀ r ∈ rs ++ rs', Complete r :=
    List.forall_mem_append.mpr ⟨complete trivial, complete' mild⟩
  exact ⟨readings.frames_eq all, readings.bodies all⟩

/-- While the session is set up, a keep-alive and a malformed frame are passed over between a choke and
the unchoke. Then a block of the wrong size, a choke, a request that is refused and a malformed frame
each leave the stream behind what they have read, and half a frame is left at the end. -/
theorem run_frames_interrupted :
    let greeting := (Handshake.plain .zero .zero).bytes
    let later := framedAll [[5, 128], pieceBody 0 0 [42], [20], [0], [1], [4]] ++ [0, 0]
    let link : Link := .fresh ⟨greeting ++ framedAll [[0], [], [4], [1]] ++ later, .closed⟩
    let x : Stream := ⟨link.incoming.unread.drop Handshake.size, link.incoming.ending⟩
    let opened : Session := ⟨⟨⟨127, 0, 0, 1⟩, 6881⟩, ⟨⟨later, .closed⟩, greeting ++ [0, 0, 0, 1, 2],
      none⟩, .unchoked, .zero, false, .unknown,
      [.ok .unchoke, .error (.malformed ⟨.have, 0⟩), .ok .keepAlive, .ok .choke]⟩
    let events : List Event := [.requestBlock 0 0 2 default, .requestBlock 0 0 1 default,
      .requestPiece 0 1, .next, .requestBlock 0 0 1 default]
    connect ⟨⟨127, 0, 0, 1⟩, 6881⟩ .zero .zero default link = .ok opened ∧
      (opened.run events).link.incoming = ⟨[0, 0], .closed⟩ ∧
      (frames x).1 = (opened.run events).log.reverse ++ [.error (.fault .endOfFile)] := by
  intro greeting later link x opened events
  have ok : connect ⟨⟨127, 0, 0, 1⟩, 6881⟩ .zero .zero default link = .ok opened := by
    decide +kernel
  have left : (opened.run events).link.incoming = ⟨[0, 0], .closed⟩ := by decide +kernel
  have mild : mildIn events opened := by decide +kernel
  have rest : frames ⟨[0, 0], .closed⟩ = ([.error (.fault .endOfFile)], ⟨[], .closed⟩) := by
    decide +kernel
  obtain ⟨eq, -⟩ := (run_frames events (by simp [events]) ok).2 mild
  rw [left, rest] at eq
  refine ⟨ok, left, ?_⟩
  rw [show frames x = _ from eq]

end Session

end Swarm.Peer
