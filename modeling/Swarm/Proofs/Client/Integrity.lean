import Swarm.Proofs.Client.Fetching
import Swarm.Proofs.Client.Opening
import Swarm.Proofs.Client.Summary
import Swarm.Proofs.Peer.Setup
import Swarm.Proofs.Torrent.PieceSizes
import Swarm.Proofs.Torrent.Written

/-!
# The integrity of runs

A run that succeeds has fetched exactly the selected pieces, each with its size and its hash, over
one session with a peer that named the torrent in its handshake. Trackers and peers may do whatever
they like: if a piece cannot be fetched or has another hash, or is none of the torrent, the run fails.
-/

namespace Swarm.Client

open Swarm.Bencode (Fits Value encode)
open Swarm.Hash (sha1)
open Swarm.Net (Endpoint)
open Swarm.Peer (Session Verified)
open Swarm.Time (Duration maxNanos)
open Swarm.Torrent (Metainfo)

/-- The history once the run has reported what it fetched. -/
def reported (summary : Summary) (elapsed : Duration) (h : History) : History :=
  { h with output := h.output ++ summaryText summary elapsed }

variable {w : World} {config : Config} {t : Metainfo} {s : Session} {source : Bytes}
variable {indexes before after : List Nat} {index : Nat} {summary : Summary}

/-! ## Runs -/

/-- A torrent is fetched over a session that is opened first. Apart from a look at the clock once all
pieces are there, the fetching leaves no trace. -/
lemma fetchTorrent_run (w : World) (config : Config) (t : Metainfo) (indexes : List Nat) :
    let opening := (openSession w.operations config t).run (described t)
    let outcome := (fetchTorrent w.operations config t indexes).run (described t)
    (∃ readings, outcome.2 = { opening.2 with readings }) ∧
    (∀ f, w.session config t = .error f → outcome.1 = .error f) ∧
    ∀ summary elapsed, outcome.1 = .ok (summary, elapsed) ↔
      elapsed = .ofNanos ((w.clock 1).nanos - (w.clock 0).nanos) ∧
      ∃ s datas s', w.session config t = .ok s ∧ Fetched config.download t s indexes datas s' ∧
        summary = ⟨indexes.length, (datas.map List.length).sum, s.peer⟩ := by
  obtain ⟨asked, found, -, dialled, readings, opened, opening, rest⟩ := openSession_run w config t
  dsimp only
  rw [fetchTorrent, run_bind, World.session, opening]
  cases opened with
  | error f =>
    refine ⟨⟨readings, rfl⟩, ?_, fun summary elapsed => ⟨?_, ?_⟩⟩
    · rintro _ ⟨⟩
      rfl
    · rintro ⟨⟩
    · rintro ⟨-, s, -, -, opened, -⟩
      cases opened
  | ok s =>
    -- a session means that peers were found, so the clock was read exactly once before the pieces
    have once : readings = 1 := by
      cases found with
      | error f => cases rest.2.2
      | ok peers => exact rest.1
    dsimp only [Except.map]
    rw [run_bind]
    rcases fetchPieces_run w config.download t s 0 indexes _ with
      ⟨datas, s', fetched, eq⟩ | ⟨not, f, eq⟩
    · rw [eq]
      dsimp only
      rw [run_bind, Nat.zero_add, once]
      refine ⟨⟨2, rfl⟩, ?_, fun summary elapsed => ⟨?_, ?_⟩⟩
      · rintro _ ⟨⟩
      · rintro ⟨⟩
        exact ⟨rfl, s, datas, s', rfl, fetched, rfl⟩
      · rintro ⟨rfl, _, datas', _, ⟨⟩, fetched', rfl⟩
        rw [(fetched.unique fetched').1]
        rfl
    · rw [eq]
      refine ⟨⟨readings, rfl⟩, ?_, fun summary elapsed => ⟨?_, ?_⟩⟩
      · rintro _ ⟨⟩
      · rintro ⟨⟩
      · rintro ⟨-, _, datas, s', ⟨⟩, fetched, -⟩
        exact absurd fetched (not datas s')

/-- Loading a torrent reads the file and does nothing else. -/
lemma load_run (w : World) (path : String) (h : History) :
    (load w.operations path).run h =
      match w.file path with
      | .error f => (.error (.unreadable path f), h)
      | .ok source => ((Metainfo.ofBytes source).mapError .torrent, h) := by
  have read : (w.operations.readFile path).run h = (w.file path, h) := rfl
  rw [load, run_bind, read]
  cases w.file path <;> rfl

/-- With valid settings and a file, a run goes as the fetching of the torrent goes. -/
lemma run_eq (valid : config.problem? = none) (read : w.file config.torrentFile = .ok source) :
    w.run config =
      match Metainfo.ofBytes source with
      | .error e => (.error (.torrent e), .empty)
      | .ok t =>
        match selected config t with
        | .error e => (.error e, described t)
        | .ok indexes =>
          match (fetchTorrent w.operations config t indexes).run (described t) with
          | (.error e, h) => (.error e, h)
          | (.ok (summary, elapsed), h) => (.ok summary, reported summary elapsed h) := by
  rw [World.run, Client.run, valid]
  dsimp only
  rw [run_bind, load_run, read]
  dsimp only
  cases Metainfo.ofBytes source with
  | error e => rfl
  | ok t =>
    have told : (w.operations.print (torrentText t)).run .empty = ((), described t) :=
      Prod.ext rfl (congrArg (fun output => { History.empty with output }) String.empty_append)
    dsimp only [Except.mapError]
    rw [run_bind, told]
    cases selected config t with
    | error e => rfl
    | ok indexes =>
      dsimp only
      rw [run_bind]
      rcases (fetchTorrent w.operations config t indexes).run (described t) with
        ⟨_ | ⟨summary, elapsed⟩, h⟩ <;> rfl

/-- Once pieces are selected, a run goes as their fetching goes. -/
lemma run_selected (valid : config.problem? = none)
    (read : w.file config.torrentFile = .ok source) (known : Metainfo.ofBytes source = .ok t)
    (chosen : selected config t = .ok indexes) :
    w.run config =
      match (fetchTorrent w.operations config t indexes).run (described t) with
      | (.error e, h) => (.error e, h)
      | (.ok (summary, elapsed), h) => (.ok summary, reported summary elapsed h) := by
  rw [run_eq valid read, known]
  dsimp only
  rw [chosen]

/-- Once pieces are selected, a run succeeds exactly if it opens a session over which these are
fetched. -/
lemma run_selected_eq_ok (valid : config.problem? = none)
    (read : w.file config.torrentFile = .ok source) (known : Metainfo.ofBytes source = .ok t)
    (chosen : selected config t = .ok indexes) :
    (w.run config).1 = .ok summary ↔
      ∃ s datas s', w.session config t = .ok s ∧ Fetched config.download t s indexes datas s' ∧
        summary = ⟨indexes.length, (datas.map List.length).sum, s.peer⟩ := by
  obtain ⟨-, -, fetches⟩ := fetchTorrent_run w config t indexes
  rw [run_selected valid read known chosen]
  generalize (fetchTorrent w.operations config t indexes).run (described t) = outcome at fetches ⊢
  rcases outcome with ⟨e | ⟨told, elapsed⟩, h⟩
  · refine ⟨nofun, fun fetched => ?_⟩
    cases (fetches summary _).mpr ⟨rfl, fetched⟩
  · constructor
    · rintro ⟨⟩
      exact ((fetches summary elapsed).mp rfl).2
    · intro fetched
      cases (fetches summary _).mpr ⟨rfl, fetched⟩
      rfl

/-- A run succeeds exactly if it has valid settings, a torrent and pieces to select, and if it opens
a session over which these are fetched. -/
lemma run_eq_ok :
    (w.run config).1 = .ok summary ↔
      config.problem? = none ∧ ∃ source t indexes, w.file config.torrentFile = .ok source ∧
        Metainfo.ofBytes source = .ok t ∧ selected config t = .ok indexes ∧
        ∃ s datas s', w.session config t = .ok s ∧ Fetched config.download t s indexes datas s' ∧
          summary = ⟨indexes.length, (datas.map List.length).sum, s.peer⟩ := by
  constructor
  · intro succeeds
    cases valid : config.problem? with
    | some p =>
      rw [World.run, Client.run, valid] at succeeds
      cases succeeds
    | none =>
      cases read : w.file config.torrentFile with
      | error f =>
        rw [World.run, Client.run, valid] at succeeds
        dsimp only at succeeds
        rw [run_bind, load_run, read] at succeeds
        cases succeeds
      | ok source =>
        cases known : Metainfo.ofBytes source with
        | error e =>
          rw [run_eq valid read, known] at succeeds
          cases succeeds
        | ok t =>
          cases chosen : selected config t with
          | error e =>
            rw [run_eq valid read, known] at succeeds
            dsimp only at succeeds
            rw [chosen] at succeeds
            cases succeeds
          | ok indexes =>
            exact ⟨rfl, source, t, indexes, rfl, known, chosen,
              (run_selected_eq_ok valid read known chosen).mp succeeds⟩
  · rintro ⟨valid, source, t, indexes, read, known, chosen, fetched⟩
    exact (run_selected_eq_ok valid read known chosen).mpr fetched

/-- A run that succeeds has described the torrent and reported what was fetched, and how long that
took since the peers were known. -/
lemma run_output (valid : config.problem? = none) (read : w.file config.torrentFile = .ok source)
    (known : Metainfo.ofBytes source = .ok t) (chosen : selected config t = .ok indexes)
    (succeeds : (w.run config).1 = .ok summary) :
    (w.run config).2.output = torrentText t ++
      summaryText summary (.ofNanos ((w.clock 1).nanos - (w.clock 0).nanos)) := by
  obtain ⟨⟨readings, trace⟩, -, fetches⟩ := fetchTorrent_run w config t indexes
  obtain ⟨asked, found, -, dialled, _, opened, opening, -⟩ := openSession_run w config t
  rw [opening] at trace
  rw [run_selected valid read known chosen] at succeeds ⊢
  generalize (fetchTorrent w.operations config t indexes).run (described t) = outcome
    at trace fetches succeeds ⊢
  rcases outcome with ⟨e | ⟨told, elapsed⟩, h⟩
  · cases succeeds
  · cases succeeds
    cases trace
    rw [((fetches summary elapsed).mp rfl).1]
    rfl

/-- A run that does not succeed fails. -/
lemma run_fails (h : ∀ summary, (w.run config).1 ≠ .ok summary) :
    ∃ f, (w.run config).1 = .error f := by
  cases outcome : (w.run config).1 with
  | error f => exact ⟨f, rfl⟩
  | ok summary => exact absurd outcome (h summary)

/-! ## Selected pieces -/

/-- The selected pieces are some of the torrent, in order: the one that was asked for, or all that a
32-bit number counts. -/
lemma selected_eq_ok (h : selected config t = .ok indexes) :
    indexes.Sublist (List.range t.pieceCount) ∧
    (∀ i, config.pieces = .one i → indexes = [i]) ∧
    (config.pieces = .all → indexes = List.range (t.pieceCount % 2 ^ 32)) := by
  rw [selected] at h
  split at h
  · rename_i i one
    split at h
    · rename_i inside
      cases h
      refine ⟨List.singleton_sublist.mpr (List.mem_range.mpr inside), ?_, ?_⟩
      · intro j one'
        rw [one] at one'
        cases one'
        rfl
      · intro all
        rw [one] at all
        cases all
    · cases h
  · rename_i all
    cases h
    refine ⟨List.range_sublist.mpr (Nat.mod_le _ _), ?_, fun _ => rfl⟩
    intro i one
    rw [all] at one
    cases one

/-- If all pieces are selected but a 32-bit number counts none of them, a run succeeds as soon as it
has a session. -/
lemma run_uncounted (valid : config.problem? = none)
    (read : w.file config.torrentFile = .ok source) (known : Metainfo.ofBytes source = .ok t)
    (every : config.pieces = .all) (wraps : t.pieceCount % 2 ^ 32 = 0)
    (opened : w.session config t = .ok s) : (w.run config).1 = .ok ⟨0, 0, s.peer⟩ := by
  have chosen : selected config t = .ok [] := by
    rw [selected, every, show t.pieceCount % UInt32.size = 0 from wraps]
    rfl
  exact (run_selected_eq_ok valid read known chosen).mpr ⟨s, [], s, opened, .nil, rfl⟩

/-! ## Integrity -/

/-- The session is over a connection on which the peer has named the torrent in its handshake. -/
def Identified (w : World) (config : Config) (t : Metainfo) (s : Session) : Prop :=
  ∃ earlier peer link head rest, w.peer earlier peer = .connected link ∧
    Session.connect peer t.infoHash w.peerId config.peerTimeout link = .ok s ∧
    link.incoming.unread = head ++ rest ∧ Verified t.infoHash head

/-- A session is opened over a connection that the peer accepts. -/
lemma connected_of_attempt {before : List Endpoint} {peer : Endpoint}
    (h : w.attempt config t before peer = .ok s) :
    ∃ link, w.peer before peer = .connected link ∧
      Session.connect peer t.infoHash w.peerId config.peerTimeout link = .ok s := by
  rw [World.attempt] at h
  cases dialling : w.peer before peer with
  | connected link =>
    rw [dialling, sessionOver] at h
    cases run : Session.connect peer t.infoHash w.peerId config.peerTimeout link with
    | error e =>
      rw [run] at h
      cases h
    | ok s' =>
      rw [run] at h
      cases h
      exact ⟨link, rfl, run⟩
  | _ =>
    rw [dialling] at h
    cases h

/-- The session of a run is one with a peer that has named the torrent. -/
lemma identified (h : w.session config t = .ok s) : Identified w config t s := by
  obtain ⟨asked, found, -, dialled, readings, opened, run, rest⟩ := openSession_run w config t
  rw [World.session, run] at h
  have eq : opened = .ok s := by
    cases opened with
    | error f => cases h
    | ok s => exact h
  subst eq
  cases found with
  | error f => cases rest.2.2
  | ok peers =>
    cases rest.2 with
    | @opened before peer after s _ _ attempt =>
      obtain ⟨link, connected, ran⟩ := connected_of_attempt attempt
      obtain ⟨head, rest, eq, verified⟩ := Session.verified_of_connect ran
      exact ⟨before, peer, link, head, rest, connected, ran, eq, verified⟩

/-- A run that succeeds has fetched the selected pieces in order over one session with a peer that
named the torrent: each has its size and its hash, and the report tells how many bytes they are,
fewer than 2⁶⁴, and how long they took since the peers were known. The pieces are the one that was
given, or all of them, if these are fewer than 2³²: the number of all pieces is cut to 32 bits. A
run fails if the piece that was given is none of the torrent, or if any of the selected pieces is
spoiled over the session when its turn comes. -/
theorem run_integrity (w : World) (config : Config) :
    (∀ summary, (w.run config).1 = .ok summary →
      ∃ source t indexes s datas s', ∃ size time : String, w.file config.torrentFile = .ok source ∧
        Metainfo.ofBytes source = .ok t ∧
        (∀ i, config.pieces = .one i → indexes = [i]) ∧
        (config.pieces = .all → indexes = List.range (t.pieceCount % 2 ^ 32) ∧
          (t.pieceCount < 2 ^ 32 → indexes = List.range t.pieceCount)) ∧
        (∀ i ∈ indexes, i < t.pieceCount) ∧
        w.session config t = .ok s ∧ Identified w config t s ∧
        Fetched config.download t s indexes datas s' ∧
        List.Forall₂ (fun i data =>
          t.pieceSize? i = some data.length ∧ t.pieces[i]? = some (sha1 data)) indexes datas ∧
        summary = ⟨indexes.length, (datas.map List.length).sum, s.peer⟩ ∧
        summary.bytes < 2 ^ 64 ∧
        (w.run config).2.output = torrentText t ++
          (s!"\nFetched {indexes.length} piece(s) from {s.peer.text}\n" ++
            s!"  Bytes: {size}\n" ++ s!"  Time:  {time}s\n") ∧
        TellsSize summary.bytes size ∧
        TellsTime ((w.clock 1).nanos - (w.clock 0).nanos) time) ∧
    ∀ source t, w.file config.torrentFile = .ok source → Metainfo.ofBytes source = .ok t →
      (∀ i, config.pieces = .one i → t.pieceCount ≤ i → ∃ f, (w.run config).1 = .error f) ∧
      ∀ before index after s datas u, selected config t = .ok (before ++ index :: after) →
        w.session config t = .ok s → Fetched config.download t s before datas u →
        Spoiled config.download t u index → ∃ f, (w.run config).1 = .error f := by
  refine ⟨?_, fun source t read known => ⟨?_, ?_⟩⟩
  · intro summary succeeds
    obtain ⟨valid, source, t, indexes, read, known, chosen, s, datas, s', opened, fetched, rfl⟩ :=
      run_eq_ok.mp succeeds
    have output := run_output valid read known chosen succeeds
    obtain ⟨within, one, all⟩ := selected_eq_ok chosen
    have small : t.totalSize < 2 ^ 64 := Metainfo.totalSize_lt known
    have sizes : List.Forall₂ (fun i n => t.pieceSize? i = some n) indexes
        (datas.map List.length) :=
      List.forall₂_map_right_iff.mpr (fetched.pieces.imp fun _ _ fits => fits.1)
    refine ⟨source, t, indexes, s, datas, s', sizeText (datas.map List.length).sum,
      secondsText (.ofNanos ((w.clock 1).nanos - (w.clock 0).nanos)), read, known, one,
      fun every => ⟨all every, fun few => ?_⟩, fun i mem => List.mem_range.mp (within.subset mem),
      opened, identified opened, fetched, fetched.pieces, rfl,
      (Metainfo.sum_sizes_le small within sizes).trans_lt small, output, tellsSize_sizeText _, ?_⟩
    · rw [all every, Nat.mod_eq_of_lt few]
    · have exact : (w.clock 1).nanos - (w.clock 0).nanos ≤ maxNanos :=
        (Nat.sub_le _ _).trans (w.clock 1).le_max
      have told := tellsTime_secondsText (.ofNanos ((w.clock 1).nanos - (w.clock 0).nanos))
      rwa [show (Duration.ofNanos _).nanos = _ from Nat.min_eq_left exact] at told
  · intro i one outside
    refine run_fails fun summary succeeds => ?_
    obtain ⟨-, source', t', indexes, read', known', chosen, -⟩ := run_eq_ok.mp succeeds
    cases read.symm.trans read'
    cases known.symm.trans known'
    rw [selected, one] at chosen
    dsimp only at chosen
    rw [if_neg (Nat.not_lt.mpr outside)] at chosen
    cases chosen
  · intro before index after s datas u chosen opened earlier spoiled
    refine run_fails fun summary succeeds => ?_
    obtain ⟨-, source', t', indexes, read', known', chosen', s', all, v, opened', fetched, -⟩ :=
      run_eq_ok.mp succeeds
    cases read.symm.trans read'
    cases known.symm.trans known'
    cases chosen.symm.trans chosen'
    cases opened.symm.trans opened'
    obtain ⟨datas', u', data, u'', earlier', obtained⟩ := fetched.split
    obtain ⟨-, rfl⟩ := earlier.unique earlier'
    exact spoiled.not_obtains obtained

/-- A torrent of one byte. -/
def oneByteTorrent : Bytes :=
  Bytes.ofText "d8:announce10:udp://t:804:infod6:lengthi1e4:name1:a12:piece lengthi1e6:pieces20:" ++
  [223, 88, 36, 140, 65, 79, 52, 44, 129, 224, 86, 180, 11, 238, 18, 209, 122, 8, 191, 97] ++
  Bytes.ofText "ee"

/-- A tracker that hands out one peer, and a peer that unchokes and sends the byte. -/
def oneByteWorld : World where
  file _ := .ok oneByteTorrent
  peerId := .zero
  network :=
    { parse _ := .ok ⟨"udp", some "t", some 80, "", none⟩
      lookup _ _ _ := .found ⟨⟨127, 0, 0, 1⟩, 80⟩
      blocked _ _ := none
      dial _ _ _ := .silent
      answers _ _ sent :=
        let reply : Bytes :=
          if sent.length = 1 then List.replicate 16 0
          else [0, 0, 0, 1] ++ List.replicate 15 0 ++ [1, 127, 0, 0, 1, 26, 225]
        .ok [⟨0, .datagram reply⟩]
      draw _ := ⟨0, 0, 0, 0, 0⟩
      secure := none }
  peer _ _ := .connected (.fresh ⟨Wire.protocolHeader ++ List.replicate 8 0 ++
    [31, 220, 52, 137, 254, 4, 122, 31, 162, 137, 222, 69, 88, 246, 134, 151, 102, 204, 147, 30] ++
    List.replicate 20 0 ++ [0, 0, 0, 1, 1, 0, 0, 0, 10, 7, 0, 0, 0, 0, 0, 0, 0, 0, 42], .closed⟩)
  clock _ := .ofNanos 0

/-- The first piece is fetched from such a peer, and there is no second one. -/
theorem run_integrity_one_byte :
    let config (index : Nat) : Config :=
      { Config.ofOptions ⟨"a", [], []⟩ with pieces := .one index }
    ((oneByteWorld.run (config 0)).1 = .ok ⟨1, 1, ⟨⟨127, 0, 0, 1⟩, 6881⟩⟩ ∧
      ∃ t data, Metainfo.ofBytes oneByteTorrent = .ok t ∧ t.pieces[0]? = some (sha1 data) ∧
        data.length = 1) ∧
      ∃ f, (oneByteWorld.run (config 1)).1 = .error f := by
  intro config
  have succeeds : (oneByteWorld.run (config 0)).1 = .ok ⟨1, 1, ⟨⟨127, 0, 0, 1⟩, 6881⟩⟩ := by
    decide +kernel
  obtain ⟨source, t, indexes, s, datas, s', -, -, read, known, one, -, -, -, -, -, pieces, eq, -⟩ :=
    (run_integrity oneByteWorld (config 0)).1 _ succeeds
  cases read
  have single : ((Metainfo.ofBytes oneByteTorrent).toOption.map (·.pieceCount)) = some 1 := by
    decide +kernel
  have count : t.pieceCount = 1 := by
    rw [known] at single
    exact Option.some.inj single
  refine ⟨⟨succeeds, ?_⟩, ((run_integrity oneByteWorld (config 1)).2 _ t rfl known).1 1 rfl ?_⟩
  · cases one 0 rfl
    obtain _ | @⟨_, data, _, _, ⟨-, hash⟩, _ | _⟩ := pieces
    refine ⟨t, data, known, hash, ?_⟩
    have bytes := congrArg Summary.bytes eq
    simpa using bytes.symm
  · rw [count]

/-- The info dictionary of a torrent with pieces of one byte, whose hashes are all zero. -/
def zeroInfo (count : Nat) : Value := .dict
  [ (Bytes.ofText "name", .bytes (Bytes.ofText "z"))
  , (Bytes.ofText "piece length", .integer 1)
  , (Bytes.ofText "pieces", .bytes ((List.replicate count Ident.zero).flatMap Ident.bytes))
  , (Bytes.ofText "length", .integer count) ]

/-- The entries of the torrent file of such a torrent. -/
def zeroEntries (count : Nat) : List (Bytes × Value) :=
  [ (Bytes.ofText "announce", .bytes (Bytes.ofText "z"))
  , (Bytes.ofText "info", zeroInfo count) ]

/-- The torrent file of such a torrent. -/
def zeroTorrent (count : Nat) : Bytes := encode (.dict (zeroEntries count))

/-- A tracker that is asked over HTTPS and hands out one peer, and a peer that unchokes. -/
def zeroWorld (count : Nat) : World where
  file _ := .ok (zeroTorrent count)
  peerId := .zero
  network :=
    { parse _ := .ok ⟨"https", some "z", none, "", none⟩
      lookup _ _ _ := .noAddress
      blocked _ _ := none
      dial _ _ _ := .silent
      answers _ _ _ := .ok []
      draw _ := ⟨0, 0, 0, 0, 0⟩
      secure := some
        { unusable _ := none
          get _ _ := .ok ⟨200, none, .ok
            (Bytes.ofText "d5:peers6:" ++ [127, 0, 0, 1, 26, 225] ++ Bytes.ofText "e")⟩ } }
  peer _ _ := .connected (.fresh ⟨Wire.protocolHeader ++ List.replicate 8 0 ++
    (sha1 (encode (zeroInfo count))).bytes ++ List.replicate 20 0 ++ [0, 0, 0, 1, 1], .closed⟩)
  clock _ := .ofNanos 0

/-- Such a torrent is read with all its pieces. -/
lemma ofBytes_zeroTorrent {count : Nat} (few : count * 20 < 10 ^ 18) :
    ∃ more, Metainfo.ofBytes (zeroTorrent count) = .ok
      ⟨"z", "z" :: more, sha1 (encode (zeroInfo count)), "z", 1, List.replicate count .zero,
        .single count⟩ := by
  let d : Metainfo.Description := ⟨"z", "z", 1, List.replicate count .zero, .single count⟩
  have inner : Metainfo.WritesInfo d (zeroInfo count) := by
    refine .single rfl (@Metainfo.Laid.intro _ _ [] _ nofun ?_)
    exact .of_eq (List.append_nil _).symm
  have laid : Metainfo.Laid ["announce", "info"]
      [("announce", Metainfo.text d.announce), ("info", zeroInfo count)] (zeroEntries count) :=
    @Metainfo.Laid.intro _ _ [] _ nofun (.of_eq (List.append_nil _).symm)
  have hashes : ((List.replicate count Ident.zero).flatMap Ident.bytes).length = count * 20 := by
    rw [List.length_flatMap, List.map_congr_left fun id _ => id.length_bytes]
    simp
  have info : Fits 63 (zeroInfo count) := by
    refine .dict (by simp only [List.forall_mem_cons]; decide) ?_
    simp only [List.forall_mem_cons]
    exact ⟨.bytes (by decide), .integer (by decide), .bytes (hashes ▸ few), .integer (by omega),
      nofun⟩
  have fits : Fits 64 (.dict (zeroEntries count)) := by
    refine .dict (by simp only [zeroEntries, List.forall_mem_cons]; decide) ?_
    simp only [zeroEntries, List.forall_mem_cons]
    exact ⟨.bytes (by decide), info, nofun⟩
  obtain ⟨more, read, -⟩ := Metainfo.ofBytes_of_writes ⟨inner, laid⟩ Nat.one_pos nofun fits
  exact ⟨more, read⟩

/-- The peer lets a session be opened for such a torrent. -/
lemma exists_connect_zero (peer : Endpoint) (infoHash peerId : Ident) (limit : Duration) :
    ∃ s, Session.connect peer infoHash peerId limit (.fresh ⟨Wire.protocolHeader ++
      List.replicate 8 0 ++ infoHash.bytes ++ List.replicate 20 0 ++ [0, 0, 0, 1, 1], .closed⟩) =
        .ok s := by
  have sized : infoHash.bytes.length = 20 := infoHash.length_bytes
  have header : Wire.protocolHeader.length = 20 := by decide
  have frame : Wire.framed [1] = [0, 0, 0, 1, 1] := by decide
  have front : (Wire.protocolHeader ++ List.replicate 8 0).length = 28 := by decide
  have verified : Verified infoHash
      (Wire.protocolHeader ++ List.replicate 8 0 ++ infoHash.bytes ++ List.replicate 20 0) := by
    refine ⟨?_, ?_, ?_⟩
    · simp [sized, header]
    · rw [List.append_assoc, List.append_assoc, List.take_left' header]
    · rw [List.append_assoc, List.drop_left' front, List.take_left' sized]
  exact Session.connect_welcome peer peerId limit .closed
    ⟨_, [], [1], [], verified, nofun, by decide, rfl, by simp [Wire.framedAll, frame]⟩

/-- If a 32-bit number counts none of the pieces, a run that is to fetch all of them fetches none and
succeeds. -/
lemma run_zeroWorld {count : Nat} (few : count * 20 < 10 ^ 18) (wraps : count % 2 ^ 32 = 0) :
    ∃ t peer, Metainfo.ofBytes (zeroTorrent count) = .ok t ∧ t.pieceCount = count ∧
      ((zeroWorld count).run (.ofOptions ⟨"a", [], [.allPieces]⟩)).1 = .ok ⟨0, 0, peer⟩ := by
  obtain ⟨more, known⟩ := ofBytes_zeroTorrent few
  obtain ⟨s, opened⟩ : ∃ s, (zeroWorld count).session (.ofOptions ⟨"a", [], [.allPieces]⟩)
      ⟨"z", "z" :: more, sha1 (encode (zeroInfo count)), "z", 1, List.replicate count .zero,
        .single count⟩ = .ok s := by
    refine @exists_session _ _ _ [⟨⟨127, 0, 0, 1⟩, 6881⟩] (List.cons_ne_nil _ _) (by decide)
      (List.cons_ne_nil _ _) (fun before url => ?_) (fun before peer => ?_)
    · rfl
    · obtain ⟨s, opened⟩ := exists_connect_zero peer (sha1 (encode (zeroInfo count))) .zero
        (Config.ofOptions ⟨"a", [], [.allPieces]⟩).peerTimeout
      exact ⟨s, congrArg (Except.mapError _) opened⟩
  have pieces : (List.replicate count Ident.zero).length = count := List.length_replicate
  exact ⟨_, s.peer, known, pieces, run_uncounted (by decide) rfl known rfl
    ((congrArg (· % 2 ^ 32) pieces).trans wraps) opened⟩

/-- Of a torrent with 2³² pieces a run that is to fetch all of them fetches none and succeeds. -/
theorem run_integrity_uncounted :
    let w := zeroWorld (2 ^ 32)
    let config : Config := Config.ofOptions ⟨"a", [], [.allPieces]⟩
    config.pieces = .all ∧
    ∃ source t peer, w.file config.torrentFile = .ok source ∧ Metainfo.ofBytes source = .ok t ∧
      t.pieceCount = 2 ^ 32 ∧ (w.run config).1 = .ok ⟨0, 0, peer⟩ := by
  intro w config
  obtain ⟨t, peer, known, count, run⟩ := @run_zeroWorld (2 ^ 32) (by decide) (by decide)
  exact ⟨rfl, zeroTorrent (2 ^ 32), t, peer, rfl, known, count, run⟩

end Swarm.Client
