import Mathlib.Data.List.Basic
import Swarm.Net.Address
import Swarm.Proofs.Word

/-!
# Records of one size

A byte string that is made of records of one size is taken apart into these records, and a list of
endpoints is exactly what the records of its endpoints are put together to.
-/

namespace Swarm

namespace Bytes

variable {size : Nat} {b : Bytes} {pieces : List Bytes}

/-- The pieces that were taken stand in front of those that follow. -/
lemma chunksFrom_taken (taken : List Bytes) (count : Nat) (b : Bytes) :
    chunksFrom size taken count b = taken.reverse ++ chunksFrom size [] count b := by
  induction count generalizing taken b with
  | zero => simp [chunksFrom]
  | succ count ih =>
    rw [chunksFrom, chunksFrom, ih, ih [_]]
    simp

/-- One more piece is taken off the front. -/
lemma chunksFrom_succ (count : Nat) (b : Bytes) :
    chunksFrom size [] (count + 1) b = b.take size :: chunksFrom size [] count (b.drop size) := by
  rw [chunksFrom, chunksFrom_taken]
  rfl

/-- Pieces of one size are taken apart again. -/
lemma chunksFrom_flatten (sized : ∀ p ∈ pieces, p.length = size) :
    chunksFrom size [] pieces.length pieces.flatten = pieces := by
  induction pieces with
  | nil => rfl
  | cons p ps ih =>
    obtain ⟨rfl, others⟩ := List.forall_mem_cons.mp sized
    rw [List.length_cons, chunksFrom_succ, List.flatten_cons, List.take_left, List.drop_left,
      ih others]

/-- Pieces of one size that stand in a row are found again. -/
theorem chunks_flatten (positive : 0 < size) (sized : ∀ p ∈ pieces, p.length = size) :
    chunks size pieces.flatten = pieces := by
  have length : pieces.flatten.length = size * pieces.length := by
    rw [List.length_flatten, List.map_congr_left sized]
    simp [Nat.mul_comm]
  rw [chunks, length, Nat.mul_div_cancel_left _ positive, chunksFrom_flatten sized]

/-- What is a multiple of the size is taken apart into pieces of that size, and nothing is lost. -/
lemma chunksFrom_sized {count : Nat} (h : b.length = size * count) :
    (∀ p ∈ chunksFrom size [] count b, p.length = size) ∧
      (chunksFrom size [] count b).flatten = b := by
  induction count generalizing b with
  | zero =>
    rw [List.length_eq_zero_iff.mp h]
    exact ⟨nofun, rfl⟩
  | succ count ih =>
    rw [Nat.mul_succ] at h
    obtain ⟨sized, flat⟩ := ih (b := b.drop size) (by rw [List.length_drop]; omega)
    have first : (b.take size).length = size := by rw [List.length_take]; omega
    rw [chunksFrom_succ]
    exact ⟨List.forall_mem_cons.mpr ⟨first, sized⟩, by simp [flat]⟩

/-- A byte string without a rest consists of its pieces. -/
theorem flatten_chunks (whole : b.length % size = 0) :
    (∀ p ∈ chunks size b, p.length = size) ∧ (chunks size b).flatten = b :=
  chunksFrom_sized (Nat.mul_div_cancel' (Nat.dvd_of_mod_eq_zero whole)).symm

end Bytes

namespace Net.Endpoint

variable {b : Bytes} {peers : List Endpoint}

/-- An endpoint takes six bytes. -/
lemma length_compact (e : Endpoint) : e.compact.length = 6 := rfl

/-- An endpoint is read back from its bytes. -/
lemma ofCompact?_compact (e : Endpoint) : ofCompact? e.compact = some e := by
  have port : Bytes.word16 (Bytes.word 2 e.port.toNat) = e.port := Bytes.word16_word e.port
  change some (⟨e.ip, Bytes.word16 (Bytes.word 2 e.port.toNat)⟩ : Endpoint) = some e
  rw [port]

/-- Six bytes are an endpoint. -/
lemma exists_compact (h : b.length = 6) : ∃ e, ofCompact? b = some e ∧ e.compact = b := by
  match b, h with
  | [a, b, c, d, p, q], _ => exact ⟨_, rfl, congrArg ([a, b, c, d] ++ ·) (Bytes.word_word16 rfl)⟩

/-- The endpoints in records of six bytes have these bytes. -/
lemma flatMap_compact_filterMap {pieces : List Bytes} (sized : ∀ p ∈ pieces, p.length = 6) :
    (pieces.filterMap ofCompact?).flatMap compact = pieces.flatten := by
  induction pieces with
  | nil => rfl
  | cons p ps ih =>
    obtain ⟨first, others⟩ := List.forall_mem_cons.mp sized
    obtain ⟨e, read, rfl⟩ := exists_compact first
    rw [List.filterMap_cons_some read, List.flatMap_cons, ih others, List.flatten_cons]

/-- Bytes yield endpoints exactly if they are the records of these endpoints. -/
theorem list?_eq_some : list? b = some peers ↔ b = peers.flatMap compact := by
  constructor
  · rw [list?]
    split
    case isFalse => nofun
    case isTrue whole =>
      obtain ⟨sized, flat⟩ := Bytes.flatten_chunks whole
      rintro ⟨⟩
      rw [flatMap_compact_filterMap sized, flat]
  · rintro rfl
    have sized : ∀ p ∈ peers.map compact, p.length = 6 :=
      List.forall_mem_map.mpr fun e _ => length_compact e
    have whole : (peers.flatMap compact).length % 6 = 0 := by
      rw [List.length_flatMap, List.map_congr_left fun e _ => length_compact e]
      simp
    rw [list?, if_pos whole, List.flatMap_def, Bytes.chunks_flatten (by decide) sized,
      List.filterMap_map, show ofCompact? ∘ compact = some from funext ofCompact?_compact,
      List.filterMap_some]

end Net.Endpoint

end Swarm
