import Swarm.Proofs.Peer.Reads

/-!
# Frames that cannot be read

What becomes of a session when an operation meets a frame that cannot be read: one that is too large or
cut short, or a connection that breaks. Behind a frame that is too large the stream goes on in the
middle of it, and behind any other nothing is left. A request gives the session up then, also one for a
piece, and from there on no block is requested. Reading a message on its own does not: it leaves the
session as it was, so that requests which were allowed still are.
-/

namespace Swarm.Peer

open Swarm.Net (Endpoint Ending Link Stream)
open Swarm.Time (Duration)
open Swarm.Wire

/-- After whole frames comes one that cannot be read, and where reading it ends. -/
inductive Stuck : Stream → FrameError → Stream → Prop where
  | intro {bodies b e rest ending} :
    (∀ body ∈ bodies, body.length ≤ maxFrame) →
    Broken ending b e rest →
    Stuck ⟨framedAll bodies ++ b, ending⟩ e ⟨rest, ending⟩

/-- The session was given up over a frame that cannot be read, and reading is stuck there. -/
structure GivenUp (s : Session) (e : FrameError) (t : Session) : Prop where
  rejected : t.state = .rejected
  stuck : Stuck s.link.incoming e t.link.incoming

variable {s t : Session} {e : FrameError} {rs : List Reading}

namespace Session

/-- A read that fails, and not for what a whole frame says, gets stuck there. -/
lemma next_stuck (read : s.next = (.error e, t)) (fatal : ∀ m, e ≠ .malformed m) :
    t = s.behind (.error e) t.link.incoming ∧
      Broken s.link.incoming.ending s.link.incoming.unread e t.link.incoming.unread ∧
      t.link.incoming.ending = s.link.incoming.ending := by
  rcases framed_or_broken s.link.incoming.ending s.link.incoming.unread with
    ⟨body, rest, fits, eq⟩ | ⟨e, rest, broken⟩
  · rw [next_framed fits (by rw [← eq])] at read
    rcases readBody_cases body with ⟨-, m, fine⟩ | ⟨-, m, malformed⟩
    · rw [fine] at read
      cases read
    · rw [malformed] at read
      cases read
      exact absurd rfl (fatal m)
  · rw [next_broken broken rfl] at read
    cases read
    exact ⟨rfl, broken, rfl⟩

/-- After steps that read messages only, a read that fails is stuck behind whole frames. -/
lemma stuck_of_steps (ms : List Message) {u : Session} (steps : Steps s (ms.map .ok) t)
    (read : t.next = (.error e, u)) (fatal : ∀ m, e ≠ .malformed m) :
    Stuck s.link.incoming e u.link.incoming := by
  have complete : ∀ r ∈ ms.map .ok, Complete r := by
    simp [complete_ok]
  obtain ⟨bodies, fits, -, incoming⟩ := steps.readings.bodies complete
  obtain ⟨-, broken, ending⟩ := next_stuck read fatal
  have stuck := Stuck.intro fits broken
  rw [incoming]
  rw [← ending] at stuck ⊢
  exact stuck

end Session

/-- A download in which a read fails is given up over it. -/
lemma Course.givenUp {α : Type} {y : Except DownloadError α × Session} (h : Course s rs y)
    (failed : .error e ∈ rs) (fatal : ∀ m, e ≠ .malformed m) : GivenUp s e y.2 := by
  cases h with
  | heard => simp at failed
  | failed ms length limit steps read =>
    obtain rfl : e = _ := by simpa using failed
    have stuck := Session.stuck_of_steps ms steps read fatal
    exact ⟨rfl, stuck⟩

/-! ## Events -/

namespace Session

/-- Whatever is done but reading on its own gives the session up over a read that fails. -/
lemma after_failure {event : Event} (failed : .error e ∈ s.reads event)
    (fatal : ∀ m, e ≠ .malformed m) (other : event ≠ .next) : GivenUp s e (s.after event) := by
  rcases s.reads_cases event with ⟨rfl, -⟩ | ⟨y, course, after, -⟩ | none
  · exact absurd rfl other
  · rw [after]
    exact course.givenUp failed fatal
  · rw [none] at failed
    cases failed

/-- Reading on its own notes the read that fails, and changes nothing else. -/
lemma after_next_failure (failed : .error e ∈ s.reads .next) (fatal : ∀ m, e ≠ .malformed m) :
    s.after .next = s.behind (.error e) (s.after .next).link.incoming ∧
      Stuck s.link.incoming e (s.after .next).link.incoming := by
  have one : s.reads .next = [s.next.1] := reads_eq s.next_log
  rw [one, List.mem_singleton] at failed
  have read : s.next = (.error e, s.after .next) := Prod.ext failed.symm rfl
  exact ⟨(next_stuck read fatal).1, stuck_of_steps [] .nil read fatal⟩

/-- A session that was given up refuses requests. -/
lemma requestBlock_rejected (rejected : s.state = .rejected) (index start : UInt32) (length : Nat)
    (limit : Duration) : s.requestBlock index start length limit = (.error .notUnchoked, s) := by
  have closed : s.isUnchoked = false := by
    rw [isUnchoked, rejected]
    rfl
  rw [requestBlock, if_pos (by rw [closed]; rfl)]

/-- Let a frame that is read in what is done with a session fail, for another reason than what it says.
Then reading is stuck there: whole frames were read before it. If a message was read on its own, the
session only notes the failure, and requests that were allowed still are. If a block or a piece was
requested, the session is rejected. Where it is rejected, every later request for a block is refused,
whatever is done before, and changes nothing. -/
theorem failed_read (event : Event) (failed : .error e ∈ s.reads event)
    (fatal : ∀ m, e ≠ .malformed m) :
    let t := s.after event
    Stuck s.link.incoming e t.link.incoming ∧
      (event = .next → t = s.behind (.error e) t.link.incoming ∧ t.isUnchoked = s.isUnchoked) ∧
      (event ≠ .next → t.state = .rejected) ∧
      (t.state = .rejected → ∀ later index start length limit,
        (t.run later).requestBlock index start length limit =
          (.error .notUnchoked, t.run later)) := by
  intro t
  refine ⟨?_, ?_, fun other => (after_failure failed fatal other).rejected, ?_⟩
  · by_cases own : event = .next
    · subst own
      exact (after_next_failure failed fatal).2
    · exact (after_failure failed fatal own).stuck
  · rintro rfl
    have same := (after_next_failure failed fatal).1
    refine ⟨same, ?_⟩
    rw [show t = _ from same]
    rfl
  · exact fun rejected later => requestBlock_rejected (run_rejected later rejected)

/-- A session that was set up, before a frame that declares one byte too many. -/
def facingOversized : Session :=
  ⟨⟨⟨127, 0, 0, 1⟩, 6881⟩, ⟨⟨Bytes.word 4 (maxFrame + 1) ++ framed (pieceBody 0 0 [42]), .closed⟩,
    (Handshake.plain .zero .zero).bytes ++ Message.interested.frame, none⟩, .unchoked, .zero, false,
    .unknown, [.ok .unchoke]⟩

/-- A request for a block gives such a session up; reading on its own does not. -/
theorem failed_read_oversized :
    let s := facingOversized
    let t := s.after (.requestBlock 0 0 1 default)
    Stuck s.link.incoming (.tooLarge (maxFrame + 1)) t.link.incoming ∧
      (∀ later index start length limit, (t.run later).requestBlock index start length limit =
        (.error .notUnchoked, t.run later)) ∧
      (s.after .next).isUnchoked = s.isUnchoked := by
  intro s t
  have failed : .error (.tooLarge (maxFrame + 1)) ∈ s.reads (.requestBlock 0 0 1 default) := by
    decide +kernel
  have failed' : .error (.tooLarge (maxFrame + 1)) ∈ s.reads .next := by decide +kernel
  obtain ⟨stuck, -, rejected, closed⟩ := failed_read _ failed nofun
  obtain ⟨-, same, -⟩ := failed_read _ failed' nofun
  exact ⟨stuck, closed (rejected nofun), (same rfl).2⟩

/-- After the read that fails, the session still allows requests, and the answer to one is taken from
the middle of the frame. -/
theorem failed_read_resynchronised :
    let link : Link := .fresh ⟨(Handshake.plain .zero .zero).bytes ++ framed [1] ++
      Bytes.word 4 (maxFrame + 1) ++ framed (pieceBody 0 0 [42]), .closed⟩
    let s := facingOversized
    connect ⟨⟨127, 0, 0, 1⟩, 6881⟩ .zero .zero default link = .ok s ∧
      s.next.1 = .error (.tooLarge (maxFrame + 1)) ∧
      (s.after .next).link.incoming = ⟨framed (pieceBody 0 0 [42]), .closed⟩ ∧
      (s.after .next).state ≠ .rejected ∧
      ((s.after .next).requestBlock 0 0 1 default).1 = .ok [42] := by
  decide +kernel

end Session

end Swarm.Peer
