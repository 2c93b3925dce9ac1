import Swarm.Proofs.Client.Integrity
import Swarm.Proofs.Torrent.Trackers

/-!
# Failover

A torrent lists every tracker once. So a run asks no tracker twice: it asks them in order up to the
first that hands out peers, and it dials these in order, up to the number that is set, until a session
is opened. That session is the one that the pieces are fetched over.
-/

namespace Swarm.Client

open Swarm.Net (Endpoint)
open Swarm.Torrent (Metainfo)

variable {w : World} {config : Config} {t : Metainfo} {source : Bytes} {indexes : List Nat}

/-! ## Runs that reach their trackers -/

/-- A run that fetches a torrent has asked and dialled what opening the session takes. -/
lemma run_tried (valid : config.problem? = none) (read : w.file config.torrentFile = .ok source)
    (known : Metainfo.ofBytes source = .ok t) (chosen : selected config t = .ok indexes) :
    let opening := ((openSession w.operations config t).run (described t)).2
    let h := (w.run config).2
    h.traffic = opening.traffic ∧ h.asked = opening.asked ∧ h.dialled = opening.dialled := by
  obtain ⟨⟨readings, trace⟩, -, -⟩ := fetchTorrent_run w config t indexes
  dsimp only at trace ⊢
  rw [run_selected valid read known chosen]
  generalize (fetchTorrent w.operations config t indexes).run (described t) = outcome at trace ⊢
  rcases outcome with ⟨e | ⟨summary, elapsed⟩, h⟩
  · cases trace
    exact ⟨rfl, rfl, rfl⟩
  · cases trace
    exact ⟨rfl, rfl, rfl⟩

/-- If no session can be opened, the run fails with the same error. -/
lemma run_without_session (valid : config.problem? = none)
    (read : w.file config.torrentFile = .ok source) (known : Metainfo.ofBytes source = .ok t)
    (chosen : selected config t = .ok indexes) {f : Failure} (none : w.session config t = .error f) :
    (w.run config).1 = .error f := by
  obtain ⟨-, fails, -⟩ := fetchTorrent_run w config t indexes
  have failed := fails f none
  rw [run_selected valid read known chosen]
  generalize (fetchTorrent w.operations config t indexes).run (described t) = outcome at failed ⊢
  rcases outcome with ⟨_, h⟩
  cases failed
  rfl

/-- The trackers of a torrent differ from one another, and a run with valid settings and a piece to
fetch asks them in order, each after those before it handed out nothing, up to the first that hands
out peers; nothing else is sent to trackers. It dials the first of these peers, as many as are allowed,
in order up to the first that lets a session be opened, and fetches the pieces over this session. If no
tracker hands out peers, no peer is dialled and the run fails with the error of the last tracker that
failed, and if no session can be opened the run fails. -/
theorem run_failover (valid : config.problem? = none)
    (read : w.file config.torrentFile = .ok source) (known : Metainfo.ofBytes source = .ok t)
    (chosen : selected config t = .ok indexes) :
    let result := (w.run config).1
    let h := (w.run config).2
    t.trackers.Nodup ∧ h.traffic = w.traffic config t h.asked ∧
    ∃ found, Discovers w config t h.asked found ∧
      match found with
      | .error f => h.dialled = [] ∧ result = .error f
      | .ok peers =>
        ∃ opened, Connects w config t (peers.take config.maxPeers) h.dialled opened ∧
          match opened with
          | .error f => result = .error f
          | .ok s => ∀ summary, result = .ok summary ↔
            ∃ datas s', Fetched config.download t s indexes datas s' ∧
              summary = ⟨indexes.length, (datas.map List.length).sum, s.peer⟩ := by
  dsimp only
  obtain ⟨asked, found, discovers, dialled, readings, opened, opening, rest⟩ :=
    openSession_run w config t
  have session : w.session config t = opened := by
    rw [World.session, opening]
    cases opened <;> rfl
  obtain ⟨sent, urls, peers⟩ := run_tried valid read known chosen
  rw [opening] at sent urls peers
  rw [sent, urls, peers]
  refine ⟨Metainfo.nodup_trackers known, rfl, found, discovers, ?_⟩
  cases found with
  | error f =>
    exact ⟨rest.1, run_without_session valid read known chosen (session.trans rest.2.2)⟩
  | ok peers =>
    refine ⟨opened, rest.2, ?_⟩
    cases opened with
    | error f => exact run_without_session valid read known chosen session
    | ok s =>
      refine fun summary => (run_selected_eq_ok valid read known chosen).trans ⟨?_, ?_⟩
      · rintro ⟨s', datas, u, same, fetched⟩
        cases session.symm.trans same
        exact ⟨datas, u, fetched⟩
      · rintro ⟨datas, u, fetched⟩
        exact ⟨s, datas, u, session, fetched⟩

/-- The same torrent with a second tracker, and with the first one named again. -/
def twoTrackers : Bytes :=
  Bytes.ofText "d13:announce-listll10:udp://u:8010:udp://t:80ee" ++ oneByteTorrent.drop 1

/-- A first look-up that finds no address, a second tracker that hands out two peers, and a first peer
that refuses a connection. -/
def secondChances : World :=
  { oneByteWorld with
    file := fun _ => .ok twoTrackers
    network :=
      { oneByteWorld.network with
        lookup := fun earlier _ port =>
          if earlier.isEmpty then .noAddress else .found ⟨⟨127, 0, 0, 1⟩, port⟩
        answers := fun _ _ sent =>
          let reply : Bytes :=
            if sent.length = 1 then List.replicate 16 0
            else [0, 0, 0, 1] ++ List.replicate 15 0 ++
              [2, 127, 0, 0, 1, 26, 225, 127, 0, 0, 2, 26, 225]
          .ok [⟨0, .datagram reply⟩] }
    peer := fun earlier peer =>
      if earlier = [] then .failed .refused else oneByteWorld.peer [] peer }

/-- The second tracker is asked and the second peer is dialled, and the piece comes from there. -/
theorem run_failover_second_chances :
    let config := Config.ofOptions ⟨"a", [], []⟩
    let peers : List Endpoint := [⟨⟨127, 0, 0, 1⟩, 6881⟩, ⟨⟨127, 0, 0, 2⟩, 6881⟩]
    (secondChances.run config).1 = .ok ⟨1, 1, ⟨⟨127, 0, 0, 2⟩, 6881⟩⟩ ∧
    ∃ t s datas s', Metainfo.ofBytes twoTrackers = .ok t ∧
      t.trackers = ["udp://t:80", "udp://u:80"] ∧
      (∃ found, Discovers secondChances config t ["udp://t:80", "udp://u:80"] (.ok found) ∧
        Connects secondChances config t (found.take config.maxPeers) peers (.ok s)) ∧
      Fetched config.download t s [0] datas s' := by
  intro config peers
  have evaluated : ((secondChances.run config).1, (secondChances.run config).2.asked,
      (secondChances.run config).2.dialled) =
        (.ok ⟨1, 1, ⟨⟨127, 0, 0, 2⟩, 6881⟩⟩, ["udp://t:80", "udp://u:80"], peers) := by
    decide +kernel
  simp only [Prod.mk.injEq] at evaluated
  obtain ⟨succeeds, asked, dialled⟩ := evaluated
  have listed : (Metainfo.ofBytes twoTrackers).toOption.map (fun t => (t.trackers, t.pieceCount)) =
      some (["udp://t:80", "udp://u:80"], 1) := by
    decide +kernel
  cases known : Metainfo.ofBytes twoTrackers with
  | error e =>
    rw [known] at listed
    cases listed
  | ok t =>
    rw [known] at listed
    obtain ⟨trackers, count⟩ := Prod.mk.inj (Option.some.inj listed)
    have chosen : selected config t = .ok [0] := by
      have first : config.pieces = .one 0 := rfl
      have inside : 0 < t.pieceCount := Nat.lt_of_lt_of_eq Nat.one_pos count.symm
      rw [selected, first]
      exact if_pos inside
    obtain ⟨-, -, found, discovers, rest⟩ :=
      @run_failover secondChances config t _ _ rfl rfl known chosen
    rw [asked] at discovers
    rw [dialled, succeeds] at rest
    rcases found with _ | found
    · cases rest.2
    obtain ⟨_ | s, connects, rest⟩ := rest
    · cases rest
    obtain ⟨datas, s', fetched, -⟩ := (rest _).mp rfl
    exact ⟨succeeds, t, s, datas, s', rfl, trackers, ⟨found, discovers, connects⟩, fetched⟩

end Swarm.Client
