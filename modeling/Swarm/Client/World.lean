import Swarm.Client.Run

/-!
# Worlds

A world tells what happens outside as a function of what was done before. Carrying the operations of
a run out in a world leaves a history: all that was sent, dialled and printed.
-/

namespace Swarm.Client

open Swarm.Net (Dialing Endpoint Fault)
open Swarm.Peer (Session)
open Swarm.Time (Duration)

/-- What happens outside. -/
structure World where
  file : (path : String) → Except Fault Bytes
  /-- The peer id that a run draws. -/
  peerId : Ident
  network : Tracker.Network
  /-- A connection to a peer, given the peers dialled before. -/
  peer : (earlier : List Endpoint) → Endpoint → Dialing
  /-- The clock, given how often it was read before. -/
  clock : (earlier : Nat) → Duration

/-- What was done so far. -/
structure History where
  /-- What was done to reach trackers. -/
  traffic : List Tracker.Deed
  /-- The URLs to whose trackers an announce was made. -/
  asked : List String
  /-- The peers that were dialled. -/
  dialled : List Endpoint
  /-- What was printed. -/
  output : String
  /-- How often the clock was read. -/
  readings : Nat
deriving DecidableEq

/-- The history before a run. -/
def History.empty : History := ⟨[], [], [], "", 0⟩

/-- An attempt to open a session over a connection that was dialled. -/
def sessionOver (peer : Endpoint) (infoHash peerId : Ident) (limit : Duration) :
    Dialing → Except Peer.SetupError Session
  | .failed f => .error (.connect f)
  | .silent => .error (.timeout .connecting limit)
  | .connected link => (Session.connect peer infoHash peerId limit link).mapError (·.1)

/-- The operations of a run in a world. -/
def World.operations (w : World) : Operations (StateM History) where
  readFile path := pure (w.file path)
  peerId := pure w.peerId
  fetch config url announce := modifyGet fun h =>
    let (result, traffic) := w.network.fetch config url announce h.traffic
    (result, { h with traffic, asked := h.asked ++ [url] })
  connect peer infoHash peerId limit := modifyGet fun h =>
    (sessionOver peer infoHash peerId limit (w.peer h.dialled peer),
      { h with dialled := h.dialled ++ [peer] })
  download config index length session :=
    pure (session.downloadPiece config index length)
  print text := modify fun h => { h with output := h.output ++ text }
  clock := modifyGet fun h => (w.clock h.readings, { h with readings := h.readings + 1 })

/-- A run in a world: how it ends, and what was done. -/
def World.run (w : World) (config : Config) : Except Failure Summary × History :=
  (Client.run w.operations config).run .empty

end Swarm.Client
