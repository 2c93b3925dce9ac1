import Mathlib.Algebra.GroupWithZero.Nat
import Swarm.Client.World
import Swarm.Proofs.Peer.Piece

/-!
# Fetching pieces

Pieces are fetched one after the other over one session. The loop of a run fetches all of them or
ends with an error; it goes on only after data that has the size and the hash of its piece.
-/

namespace Swarm.Client

open Swarm.Hash (sha1)
open Swarm.Peer (DownloadConfig Session verifyPiece)
open Swarm.Torrent (Metainfo)

/-- A piece is fetched over a session: data of its size, with its hash. -/
structure Obtains (config : DownloadConfig) (t : Metainfo) (s : Session) (index : Nat)
    (data : Bytes) (u : Session) : Prop where
  downloaded : ∃ size, t.pieceSize? index = some size ∧
    s.downloadPiece config (UInt32.ofNat index) size = (.ok data, u)
  hash : t.pieces[index]? = some (sha1 data)

/-- Pieces are fetched one after the other over a session. -/
inductive Fetched (config : DownloadConfig) (t : Metainfo) :
    Session → List Nat → List Bytes → Session → Prop where
  | nil {s} :
    Fetched config t s [] [] s
  | cons {s index data u indexes datas s'} :
    Obtains config t s index data u →
    Fetched config t u indexes datas s' →
    Fetched config t s (index :: indexes) (data :: datas) s'

/-- Over a session a piece cannot be fetched, or has another hash. -/
def Spoiled (config : DownloadConfig) (t : Metainfo) (s : Session) (index : Nat) : Prop :=
  ∃ size, t.pieceSize? index = some size ∧
    ((∃ e u, s.downloadPiece config (UInt32.ofNat index) size = (.error e, u)) ∨
      ∃ data u, s.downloadPiece config (UInt32.ofNat index) size = (.ok data, u) ∧
        t.pieces[index]? ≠ some (sha1 data))

variable {config : DownloadConfig} {t : Metainfo} {s s' u u' : Session}
variable {indexes before after : List Nat} {datas datas' : List Bytes} {data data' : Bytes}
variable {index : Nat}

/-! ## One piece -/

/-- What is obtained for a piece is one thing only. -/
lemma Obtains.unique (h : Obtains config t s index data u)
    (h' : Obtains config t s index data' u') : data = data' ∧ u = u' := by
  obtain ⟨size, sized, run⟩ := h.downloaded
  obtain ⟨size', sized', run'⟩ := h'.downloaded
  cases sized.symm.trans sized'
  cases run.symm.trans run'
  exact ⟨rfl, rfl⟩

/-- A spoiled piece is not obtained. -/
lemma Spoiled.not_obtains (h : Spoiled config t s index) : ¬ Obtains config t s index data u := by
  rintro ⟨⟨size, sized, run⟩, hash⟩
  obtain ⟨size', sized', ⟨e, v, run'⟩ | ⟨data', v, run', other⟩⟩ := h
  · cases sized.symm.trans sized'
    cases run.symm.trans run'
  · cases sized.symm.trans sized'
    cases run.symm.trans run'
    exact other hash

/-- One round of the loop in a world, where a download only changes the session. -/
lemma fetchPieces_step (w : World) (config : DownloadConfig) (t : Metainfo) (s : Session)
    (total index : Nat) (rest : List Nat) :
    fetchPieces w.operations config t s total (index :: rest) =
      match t.pieceSize? index, t.pieces[index]? with
      | none, _ => pure (.error (.noSize index))
      | some _, none => pure (.error (.noHash index))
      | some size, some hash =>
        match s.downloadPiece config (UInt32.ofNat index) size with
        | (.error e, s) => pure (.error (.download index s.peer e))
        | (.ok data, s) =>
          match verifyPiece index data hash with
          | .error e => pure (.error (.corrupt index s.peer e))
          | .ok () => fetchPieces w.operations config t s (total + data.length) rest := rfl

/-- The loop fetches the next piece and goes on, or the piece is not to be had and the loop ends. -/
lemma fetchPieces_cons (w : World) (config : DownloadConfig) (t : Metainfo) (s : Session)
    (index : Nat) :
    (∃ data u, Obtains config t s index data u ∧ ∀ total rest,
      fetchPieces w.operations config t s total (index :: rest) =
        fetchPieces w.operations config t u (total + data.length) rest) ∨
    ((∀ data u, ¬ Obtains config t s index data u) ∧ ∃ f, ∀ total rest,
      fetchPieces w.operations config t s total (index :: rest) = pure (.error f)) := by
  cases sized : t.pieceSize? index with
  | none =>
    refine .inr ⟨?_, .noSize index, fun total rest => by rw [fetchPieces_step, sized]⟩
    rintro data u ⟨⟨size, sized', -⟩, -⟩
    cases sized.symm.trans sized'
  | some size =>
    cases hashed : t.pieces[index]? with
    | none =>
      refine .inr ⟨?_, .noHash index, fun total rest => by rw [fetchPieces_step, sized, hashed]⟩
      rintro data u ⟨-, hashed'⟩
      cases hashed.symm.trans hashed'
    | some hash =>
      rcases run : s.downloadPiece config (UInt32.ofNat index) size with ⟨e | data, u⟩
      · have spoiled : Spoiled config t s index := ⟨size, sized, .inl ⟨e, u, run⟩⟩
        refine .inr ⟨fun _ _ => spoiled.not_obtains, .download index u.peer e, ?_⟩
        intro total rest
        rw [fetchPieces_step, sized, hashed]
        simp only [run]
      · -- the only check after the download compares the hashes
        by_cases same : sha1 data = hash
        · have fine : verifyPiece index data hash = .ok () := if_pos same
          refine .inl ⟨data, u, ⟨⟨size, sized, run⟩, same ▸ hashed⟩, fun total rest => ?_⟩
          rw [fetchPieces_step, sized, hashed]
          simp only [run, fine]
        · have corrupt : verifyPiece index data hash =
            .error (.hashMismatch index hash (sha1 data)) := if_neg same
          have other : t.pieces[index]? ≠ some (sha1 data) := fun hashed' =>
            same (Option.some.inj (hashed'.symm.trans hashed))
          have spoiled : Spoiled config t s index := ⟨size, sized, .inr ⟨data, u, run, other⟩⟩
          refine .inr ⟨fun _ _ => spoiled.not_obtains,
            .corrupt index u.peer (.hashMismatch index hash (sha1 data)), ?_⟩
          intro total rest
          rw [fetchPieces_step, sized, hashed]
          simp only [run, corrupt]

/-! ## Pieces in a row -/

/-- The loop fetches all pieces, or else they are not to be had and it ends with an error. -/
lemma fetchPieces_run (w : World) (config : DownloadConfig) (t : Metainfo) (s : Session)
    (total : Nat) (indexes : List Nat) (h : History) :
    (∃ datas s', Fetched config t s indexes datas s' ∧
      (fetchPieces w.operations config t s total indexes).run h =
        (.ok (total + (datas.map List.length).sum), h)) ∨
    ((∀ datas s', ¬ Fetched config t s indexes datas s') ∧
      ∃ f, (fetchPieces w.operations config t s total indexes).run h = (.error f, h)) := by
  -- the session that one piece leaves is the one the next piece starts from
  induction indexes generalizing s total with
  | nil => exact .inl ⟨[], s, .nil, rfl⟩
  | cons index rest ih =>
    rcases fetchPieces_cons w config t s index with ⟨data, u, obtained, next⟩ | ⟨not, f, ends⟩
    · rw [next]
      rcases ih u (total + data.length) with ⟨datas, s', fetched, eq⟩ | ⟨not, f, eq⟩
      · refine .inl ⟨data :: datas, s', .cons obtained fetched, ?_⟩
        rw [eq, List.map_cons, List.sum_cons, Nat.add_assoc]
      · refine .inr ⟨?_, f, eq⟩
        rintro datas s' (_ | ⟨obtained', later⟩)
        obtain ⟨-, rfl⟩ := obtained.unique obtained'
        exact not _ _ later
    · refine .inr ⟨?_, f, by rw [ends]; rfl⟩
      rintro datas s' (_ | ⟨obtained, -⟩)
      exact not _ _ obtained

/-- If pieces are fetched, each of them is obtained after those before it. -/
lemma Fetched.split (h : Fetched config t s (before ++ index :: after) datas s') :
    ∃ earlier u data u', Fetched config t s before earlier u ∧
      Obtains config t u index data u' := by
  induction before generalizing s datas with
  | nil =>
    cases h with
    | cons obtained _ => exact ⟨[], s, _, _, .nil, obtained⟩
  | cons first before ih =>
    cases h with
    | cons obtained later =>
      obtain ⟨earlier, u, data, u', fetched, next⟩ := ih later
      exact ⟨_ :: earlier, u, data, u', .cons obtained fetched, next⟩

/-- What is fetched for some pieces is one thing only. -/
lemma Fetched.unique (h : Fetched config t s indexes datas u)
    (h' : Fetched config t s indexes datas' u') : datas = datas' ∧ u = u' := by
  induction h generalizing datas' with
  | nil =>
    cases h'
    exact ⟨rfl, rfl⟩
  | cons obtained _ ih =>
    cases h' with
    | cons obtained' later =>
      obtain ⟨rfl, rfl⟩ := obtained.unique obtained'
      obtain ⟨rfl, rfl⟩ := ih later
      exact ⟨rfl, rfl⟩

/-- Each fetched piece has its size and its hash. -/
lemma Fetched.pieces (h : Fetched config t s indexes datas s') :
    List.Forall₂ (fun i data => t.pieceSize? i = some data.length ∧ t.pieces[i]? = some (sha1 data))
      indexes datas := by
  induction h with
  | nil => exact .nil
  | cons obtained _ ih =>
    obtain ⟨size, sized, run⟩ := obtained.downloaded
    exact .cons ⟨by rw [sized, Session.length_of_downloadPiece run], obtained.hash⟩ ih

end Swarm.Client
