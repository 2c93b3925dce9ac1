import Mathlib.Tactic.Lemma
import Swarm.Client.World

/-!
# Opening a session

A run asks the trackers of a torrent one after the other until one hands out peers, and dials the
peers one after the other until one lets it open a session. Whatever trackers and peers do, this
settles which of them are tried.
-/

namespace Swarm.Client

open Swarm.Net (Endpoint)
open Swarm.Peer (Session SetupError)
open Swarm.Time (Duration)
open Swarm.Torrent (Metainfo)
open Swarm.Tracker (Announce Deed)

/-- The history once the torrent file is read: the torrent is described. -/
def described (t : Metainfo) : History := { History.empty with output := torrentText t }

/-- The session that a run opens for a torrent. -/
def World.session (w : World) (config : Config) (t : Metainfo) : Except Failure Session :=
  ((openSession w.operations config t).run (described t)).1.map (·.1)

/-- What a run announces for a torrent. -/
def World.announce (w : World) (config : Config) (t : Metainfo) : Announce :=
  .start t.infoHash w.peerId config.port (UInt64.ofNat t.totalSize)

/-- What was done to reach trackers once some of them were asked, in order. -/
def World.traffic (w : World) (config : Config) (t : Metainfo) (asked : List String) : List Deed :=
  asked.foldl (fun traffic url =>
    (w.network.fetch config.tracker url (w.announce config t) traffic).2) []

/-- The answer of a tracker that is asked after some others. -/
def World.answer (w : World) (config : Config) (t : Metainfo) (before : List String)
    (url : String) : Except Tracker.Error (List Endpoint) :=
  (w.network.fetch config.tracker url (w.announce config t) (w.traffic config t before)).1

/-- The attempt to open a session with a peer that is dialled after some others. -/
def World.attempt (w : World) (config : Config) (t : Metainfo) (before : List Endpoint)
    (peer : Endpoint) : Except SetupError Session :=
  sessionOver peer t.infoHash w.peerId config.peerTimeout (w.peer before peer)

/-- None of some trackers hands out a peer when asked in order; the error is that of the last one
that failed. -/
inductive Barren (w : World) (config : Config) (t : Metainfo) :
    List String → (last : Option Tracker.Error) → Prop where
  | nil :
    Barren w config t [] none
  | empty {before last url} :
    Barren w config t before last →
    w.answer config t before url = .ok [] →
    Barren w config t (before ++ [url]) last
  | failed {before last url e} :
    Barren w config t before last →
    w.answer config t before url = .error e →
    Barren w config t (before ++ [url]) (some e)

/-- None of some peers lets a session be opened when dialled in order. -/
inductive Unwilling (w : World) (config : Config) (t : Metainfo) : List Endpoint → Prop where
  | nil :
    Unwilling w config t []
  | failed {before peer e} :
    Unwilling w config t before →
    w.attempt config t before peer = .error e →
    Unwilling w config t (before ++ [peer])

/-- The trackers of a torrent are asked in order, up to the first that hands out peers. -/
inductive Discovers (w : World) (config : Config) (t : Metainfo) :
    (asked : List String) → Except Failure (List Endpoint) → Prop where
  | found {before url after last peers} :
    t.trackers = before ++ url :: after →
    Barren w config t before last →
    w.answer config t before url = .ok peers →
    peers ≠ [] →
    Discovers w config t (before ++ [url]) (.ok peers)
  | exhausted {last} :
    Barren w config t t.trackers last →
    Discovers w config t t.trackers (.error (.noPeers last))

/-- Some peers are dialled in order, up to the first that lets a session be opened. -/
inductive Connects (w : World) (config : Config) (t : Metainfo) (candidates : List Endpoint) :
    (dialled : List Endpoint) → Except Failure Session → Prop where
  | opened {before peer after s} :
    candidates = before ++ peer :: after →
    Unwilling w config t before →
    w.attempt config t before peer = .ok s →
    Connects w config t candidates (before ++ [peer]) (.ok s)
  | exhausted :
    Unwilling w config t candidates →
    Connects w config t candidates candidates (.error (.noSession candidates.length))

variable {w : World} {config : Config} {t : Metainfo}

/-- What comes second is carried out with the history that the first leaves. -/
lemma run_bind {α β : Type} (x : StateM History α) (f : α → StateM History β) (h : History) :
    (x >>= f).run h = (f (x.run h).1).run (x.run h).2 := rfl

/-! ## Asking trackers -/

/-- One more tracker is asked after those before it. -/
lemma traffic_concat (before : List String) (url : String) :
    w.traffic config t (before ++ [url]) =
      (w.network.fetch config.tracker url (w.announce config t) (w.traffic config t before)).2 := by
  rw [World.traffic, List.foldl_append]
  rfl

/-- After some trackers were asked, the next answers as it does at its turn. -/
lemma fetch_run {h : History} (reached : h.traffic = w.traffic config t h.asked) (url : String) :
    (w.operations.fetch config.tracker url (w.announce config t)).run h =
      (w.answer config t h.asked url,
        { h with traffic := w.traffic config t (h.asked ++ [url]), asked := h.asked ++ [url] }) := by
  rw [traffic_concat, World.answer, ← reached]
  rfl

/-- From trackers that have handed out nothing, the loop goes on to the first that does. -/
lemma discover_run {last : Option Tracker.Error} {urls : List String} {h : History}
    (barren : Barren w config t h.asked last) (whole : t.trackers = h.asked ++ urls)
    (reached : h.traffic = w.traffic config t h.asked) :
    ∃ asked found, Discovers w config t asked found ∧
      (discover (fun url => w.operations.fetch config.tracker url (w.announce config t)) last
        urls).run h = (found, { h with traffic := w.traffic config t asked, asked }) := by
  induction urls generalizing last h with
  | nil =>
    rw [List.append_nil] at whole
    rw [← whole] at barren
    refine ⟨t.trackers, _, .exhausted barren, ?_⟩
    rw [whole, ← reached]
    rfl
  | cons url urls ih =>
    have onward : t.trackers = (h.asked ++ [url]) ++ urls := by
      rw [whole, List.append_assoc, List.singleton_append]
    rw [discover, run_bind, fetch_run reached]
    cases answer : w.answer config t h.asked url with
    | error e => exact ih (.failed barren answer) onward rfl
    | ok peers =>
      cases peers with
      | nil => exact ih (.empty barren answer) onward rfl
      | cons peer peers =>
        exact ⟨_, _, .found whole barren answer (List.cons_ne_nil _ _), rfl⟩

/-! ## Dialling peers -/

/-- From peers that were of no use, the loop goes on to the first that lets it open a session. -/
lemma connectFirst_run {candidates peers : List Endpoint} {h : History}
    (unwilling : Unwilling w config t h.dialled) (whole : candidates = h.dialled ++ peers) :
    ∃ dialled opened, Connects w config t candidates dialled opened ∧
      (connectFirst (fun peer => w.operations.connect peer t.infoHash w.peerId config.peerTimeout)
        candidates.length peers).run h = (opened, { h with dialled }) := by
  induction peers generalizing h with
  | nil =>
    rw [List.append_nil] at whole
    rw [← whole] at unwilling
    refine ⟨candidates, _, .exhausted unwilling, ?_⟩
    rw [whole]
    rfl
  | cons peer peers ih =>
    have onward : candidates = (h.dialled ++ [peer]) ++ peers := by
      rw [whole, List.append_assoc, List.singleton_append]
    have dialling : (w.operations.connect peer t.infoHash w.peerId config.peerTimeout).run h =
      (w.attempt config t h.dialled peer, { h with dialled := h.dialled ++ [peer] }) := rfl
    rw [connectFirst, run_bind, dialling]
    cases attempt : w.attempt config t h.dialled peer with
    | error e => exact ih (.failed unwilling attempt) onward
    | ok s => exact ⟨_, _, .opened whole unwilling attempt, rfl⟩

/-! ## Both in a row -/

/-- A run asks trackers up to the first that hands out peers, and dials these up to the first that
lets it open a session. The clock is read as soon as the peers are known. -/
lemma openSession_run (w : World) (config : Config) (t : Metainfo) :
    ∃ asked found, Discovers w config t asked found ∧
      ∃ dialled readings opened, (openSession w.operations config t).run (described t) =
        (opened.map fun s => (s, w.clock 0),
          { described t with traffic := w.traffic config t asked, asked, dialled, readings }) ∧
        match found with
        | .error f => dialled = [] ∧ readings = 0 ∧ opened = .error f
        | .ok peers =>
          readings = 1 ∧ Connects w config t (peers.take config.maxPeers) dialled opened := by
  obtain ⟨asked, found, discovers, run⟩ :=
    @discover_run w config t none t.trackers (described t) .nil rfl rfl
  have told : w.operations.peerId.run (described t) = (w.peerId, described t) := rfl
  refine ⟨asked, found, discovers, ?_⟩
  rw [openSession, run_bind, told, run_bind]
  simp only [World.announce] at run
  rw [run]
  cases found with
  | error f => exact ⟨[], 0, _, rfl, rfl, rfl, rfl⟩
  | ok peers =>
    let known := { described t with traffic := w.traffic config t asked, asked, readings := 1 }
    obtain ⟨dialled, opened, connects, ran⟩ := @connectFirst_run w config t
      (peers.take config.maxPeers) (peers.take config.maxPeers) known .nil rfl
    have read : (w.operations.clock.run { described t with
        traffic := w.traffic config t asked, asked }) = (w.clock 0, known) := rfl
    refine ⟨dialled, 1, opened, ?_, rfl, connects⟩
    dsimp only
    rw [run_bind, read]
    dsimp only
    rw [run_bind, ran]
    cases opened <;> rfl

/-- If every tracker hands out the same peers and every peer lets a session be opened, a run opens a
session. -/
lemma exists_session {peers : List Endpoint} (listed : t.trackers ≠ []) (allowed : config.maxPeers ≠ 0)
    (some : peers ≠ []) (generous : ∀ before url, w.answer config t before url = .ok peers)
    (willing : ∀ before peer, ∃ s, w.attempt config t before peer = .ok s) :
    ∃ s, w.session config t = .ok s := by
  obtain ⟨asked, found, discovers, dialled, readings, opened, run, rest⟩ := openSession_run w config t
  rw [World.session, run]
  cases discovers with
  | exhausted barren =>
    generalize t.trackers = urls at listed barren
    cases barren with
    | nil => exact absurd rfl listed
    | empty _ answer => exact absurd (Except.ok.inj ((generous _ _).symm.trans answer)) some
    | failed _ answer => cases (generous _ _).symm.trans answer
  | found _ _ answer =>
    cases (generous _ _).symm.trans answer
    cases rest.2 with
    | opened => exact ⟨_, rfl⟩
    | exhausted unwilling =>
      have candidates : peers.take config.maxPeers ≠ [] := fun none =>
        (List.take_eq_nil_iff.mp none).elim allowed some
      generalize peers.take config.maxPeers = tried at candidates unwilling
      cases unwilling with
      | nil => exact absurd rfl candidates
      | @failed before peer _ _ failed =>
        obtain ⟨s, attempt⟩ := willing before peer
        cases attempt.symm.trans failed

end Swarm.Client
