import Swarm.Peer.Session
import Swarm.Proofs.Wire.Body

/-!
# Listening

What reading one frame does to a session. A complete frame is taken off the stream and the session
learns from its body; a broken stream is an error and the session learns nothing. What is learned
never touches the connection or the peer id.
-/

namespace Swarm.Peer.Session
open Swarm.Net (Ending Link Stream)
open Swarm.Wire

variable {s : Session} {body rest : Bytes} {ending : Ending}

/-- The session with another part of the stream still to be read. -/
def leaving (s : Session) (incoming : Stream) : Session :=
  { s with link := { s.link with incoming } }

/-- The session behind frames that were read in a row with these results. -/
def passing (s : Session) (rs : List Reading) (incoming : Stream) : Session :=
  { s with link := { s.link with incoming }, log := rs.reverse ++ s.log }

/-- The session after it has sent more bytes with one of its writes. -/
def sending (s : Session) (b : Bytes) : Session :=
  { s with link := { s.link with sent := s.link.sent ++ b, writes := s.link.writes.map (· - 1) } }

/-- What a session knows after a body. -/
def hear (s : Session) (body : Bytes) : Session :=
  match readBody body with
  | .ok m => s.learn m
  | .error _ => s

/-- No frame at all leaves a session as it is. -/
lemma passing_nil (s : Session) : s.passing [] s.link.incoming = s := rfl

/-- One frame and then others are frames in a row. -/
lemma behind_passing (s : Session) (r : Reading) (rs : List Reading) (x y : Stream) :
    (s.behind r x).passing rs y = s.passing (r :: rs) y := by
  simp [passing, behind]

/-- Frames in a row and then one more are frames in a row. -/
lemma passing_behind (s : Session) (rs : List Reading) (r : Reading) (x y : Stream) :
    (s.passing rs x).behind r y = s.passing (rs ++ [r]) y := by
  simp [passing, behind]

/-- What is learned from a message leaves the connection alone. -/
@[simp] lemma learn_link (s : Session) (m : Message) : (s.learn m).link = s.link := by
  cases m <;> rfl

/-- What is learned from a message leaves the id of the peer alone. -/
@[simp] lemma learn_remoteId (s : Session) (m : Message) : (s.learn m).remoteId = s.remoteId := by
  cases m <;> rfl

/-- What is learned from a message leaves the log alone. -/
@[simp] lemma learn_log (s : Session) (m : Message) : (s.learn m).log = s.log := by
  cases m <;> rfl

/-- Hearing a body leaves the connection alone. -/
@[simp] lemma hear_link (s : Session) (body : Bytes) : (s.hear body).link = s.link := by
  rw [hear]
  split
  · exact learn_link s _
  · rfl

/-- Hearing a body leaves the id of the peer alone. -/
@[simp] lemma hear_remoteId (s : Session) (body : Bytes) :
    (s.hear body).remoteId = s.remoteId := by
  rw [hear]
  split
  · exact learn_remoteId s _
  · rfl

/-- From a body that is a message, the message is learned. -/
lemma hear_read {m : Message} (h : readBody body = .ok m) : s.hear body = s.learn m := by
  rw [hear, h]

/-- Nothing is learned from a body that does not speak. -/
lemma hear_idle (idle : ¬ Speaks body) : s.hear body = s := by
  rw [hear]
  rcases read_of_not_speaks idle with h | ⟨m, h⟩
  · rw [h]
    rfl
  · rw [h]

/-- Requests stay allowed after every message but a choke. -/
lemma learn_isUnchoked {m : Message} (h : s.isUnchoked) (hm : m ≠ .choke) :
    (s.learn m).isUnchoked := by
  simp only [isUnchoked, Bool.and_eq_true, beq_iff_eq] at h
  cases m with
  | choke => exact absurd rfl hm
  | _ => simp [learn, isUnchoked, h]

/-- A complete frame is read for its body, and the session learns from it. -/
lemma next_framed (fits : body.length ≤ maxFrame)
    (h : s.link.incoming = ⟨framed body ++ rest, ending⟩) :
    s.next = (readBody body, (s.behind (readBody body) ⟨rest, ending⟩).hear body) := by
  rw [next, h, readFrame_framed fits, hear]
  cases readBody body <;> rfl

/-- At the place where frames are broken, the error is noted and the rest stays unread. -/
lemma next_broken {b e} (broken : Broken ending b e rest) (h : s.link.incoming = ⟨b, ending⟩) :
    s.next = (.error e, s.behind (.error e) ⟨rest, ending⟩) := by
  rw [next, h, broken.readFrame]

/-- Unless no write is left, a message is sent as its frame. -/
lemma send_of_writes (writes : s.link.writes ≠ some 0) (m : Message) :
    s.send m = .ok (s.sending m.frame) := by
  rw [send, Link.send_of_writes writes]
  rfl

/-- Reading sends nothing. -/
lemma next_sent {r} {s' : Session} (h : s.next = (r, s')) : s'.link.sent = s.link.sent := by
  rw [next] at h
  split at h
  · cases h
    rw [learn_link]
    rfl
  · cases h
    rfl

end Swarm.Peer.Session
