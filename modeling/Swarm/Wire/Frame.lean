import Swarm.Net.Link
import Swarm.Wire.Message

/-!
# Reading frames

Reading a frame takes its bytes off the front of a stream. A frame whose payload has the wrong size
is read in full; a frame that is too large uses up its length only, and one that is cut short uses
up the stream.
-/

namespace Swarm.Wire

open Swarm.Net (Stream Fault)

/-- Why a frame cannot be read. -/
inductive FrameError where
  /-- Nothing more arrives in time. -/
  | silent
  /-- The connection ends between frames or inside a length, or it breaks. -/
  | fault (f : Fault)
  /-- The declared length is above the limit. -/
  | tooLarge (length : Nat)
  /-- The connection is closed inside a frame. -/
  | truncated (expected received : Nat)
  /-- The payload has the wrong size. -/
  | malformed (m : Malformed)
deriving DecidableEq

/-- The words for an error. -/
def FrameError.message : FrameError → String
  | silent => "no data in time"
  | fault f => f.message
  | tooLarge n => s!"frame declares {n} bytes, limit is {maxFrame}"
  | truncated expected received =>
    s!"connection closed after {received} of {expected} payload bytes"
  | malformed m => s!"malformed {m.kind.name} message: {m.reason}"

/-- What reading a frame results in. -/
abbrev Reading := Except FrameError Message

instance : DecidableEq Reading
  | .ok m, .ok m' =>
    if h : m = m' then .isTrue (congrArg _ h) else .isFalse fun eq => h (Except.ok.inj eq)
  | .error e, .error e' =>
    if h : e = e' then .isTrue (congrArg _ h) else .isFalse fun eq => h (Except.error.inj eq)
  | .ok _, .error _ => .isFalse fun eq => by cases eq
  | .error _, .ok _ => .isFalse fun eq => by cases eq

/-- Why bytes that were asked for do not come, given the reason for a connection that was closed. -/
def starved (s : Stream) (closed : FrameError) : FrameError :=
  match s.ending with
  | .closed => closed
  | .silent => .silent
  | .broken f => .fault f

/-- Reads the next frame of a stream. -/
def readFrame (s : Stream) : Reading × Stream :=
  match s.unread with
  | a :: b :: c :: d :: rest =>
    let length := Bytes.number [a, b, c, d]
    if length = 0 then (.ok .keepAlive, { s with unread := rest })
    else if maxFrame < length then (.error (.tooLarge length), { s with unread := rest })
    else
      match rest.take length with
      | [] => (.error (starved s (.truncated length 0)), s.drained)
      | id :: payload =>
        if payload.length + 1 < length then
          (.error (starved s (.truncated length (payload.length + 1))), s.drained)
        else
          ((Message.ofPayload id payload).mapError .malformed,
            { s with unread := rest.drop length })
  | _ => (.error (starved s (.fault .endOfFile)), s.drained)

/-- Reads frames to the end of a stream, or up to the first error after which the place of the next
frame is not known. The results so far are kept in reverse; a byte of `fuel` a frame is enough. -/
def readFrames (done : List Reading) (fuel : Bytes) (s : Stream) : List Reading × Stream :=
  match readFrame s with
  | (.ok m, s) =>
    match fuel with
    | [] => ((.ok m :: done).reverse, s)
    | _ :: fuel => readFrames (.ok m :: done) fuel s
  | (.error (.malformed m), s) =>
    match fuel with
    | [] => ((.error (.malformed m) :: done).reverse, s)
    | _ :: fuel => readFrames (.error (.malformed m) :: done) fuel s
  | (.error e, s) => ((.error e :: done).reverse, s)

/-- The frames of a stream, and the stream after them. -/
def frames (s : Stream) : List Reading × Stream :=
  readFrames [] s.unread s

end Swarm.Wire
