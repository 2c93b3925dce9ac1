import Mathlib.Algebra.Order.BigOperators.Group.List
import Swarm.Proofs.Bencode.Writing
import Swarm.Proofs.Torrent.InfoDictionary
import Swarm.Proofs.Torrent.Totals

/-!
# Sizes of pieces

The pieces of a torrent divide its content from the beginning on: each ends where the next one
begins, as far as the content goes. So the sizes of pieces add up to no more than the content, which
is smaller than 2⁶⁴ bytes in every torrent that is read.
-/

namespace Swarm.Torrent.Metainfo

open Swarm.Bencode

/-- Where a piece begins, or the end of the content if that comes first. -/
def edge (m : Metainfo) (index : Nat) : Nat := min (index * m.pieceLength) m.totalSize

variable {m : Metainfo} {source : Bytes} {index : Nat}

/-! ## Bounds of a torrent that is read -/

/-- What is found in a document is spelled by a part of it. -/
lemma exists_document {part key : Bytes} {info n : Node} (decoded : decodeExact part = .ok info)
    (found : info.lookup? key = some n) :
    ∃ pos room c, Document pos room c n := by
  obtain ⟨before, c, after, room, -, -, doc⟩ :=
    (document_of_decodeExact decoded).exists_part (occurs_of_lookup? found)
  exact ⟨_, room, c, doc⟩

/-- A size that can be written down is small. -/
lemma size_lt {part key : Bytes} {info : Node} {k : Nat} (decoded : decodeExact part = .ok info)
    (h : (info.lookup? key).bind size? = some k) : k < 10 ^ 18 := by
  obtain ⟨n, found, size⟩ := Option.bind_eq_some_iff.mp h
  obtain ⟨pos, room, c, doc⟩ := exists_document decoded found
  cases doc with
  | @positive _ _ _ n num =>
    cases size
    exact num.small
  | @negative _ _ _ n num =>
    cases n with
    | zero =>
      cases size
      decide
    | succ n => cases size
  | _ => cases size

/-- A single file has the size that is written down for it. -/
lemma readContent_single {info : Node} {length : Nat}
    (h : readContent info = .ok (.single length)) :
    (info.lookup? (Bytes.ofText "length")).bind size? = some length := by
  revert h
  fun_cases readContent info with
  | case1 n found length' size =>
    rintro ⟨⟩
    rw [found]
    exact size
  | _ => nofun

/-- The content of a torrent is smaller than 2⁶⁴ bytes. -/
theorem totalSize_lt (h : ofBytes source = .ok m) : m.totalSize < 2 ^ 64 := by
  obtain ⟨root, info, part, alone, -, -, of⟩ := ofBytes_infoOf h
  have content := of.describes_alone.content
  cases kind : m.content with
  | single length =>
    rw [kind] at content
    rw [totalSize, kind]
    exact (size_lt of.decoded (readContent_single content)).trans (by decide)
  | files files =>
    rw [totalSize_files kind]
    exact saturate_lt _

/-! ## Sizes -/

/-- A piece reaches from its edge to the next. -/
lemma pieceSize?_eq (small : m.totalSize < 2 ^ 64) (h : index < m.pieceCount) :
    m.pieceSize? index = some (m.edge (index + 1) - m.edge index) := by
  rw [pieceSize?, if_pos h]
  simp only [edge, saturate, limit64, UInt64.size, Nat.succ_mul]
  congr 1
  omega

/-- The edges of pieces come in order. -/
lemma edge_le (index : Nat) : m.edge index ≤ m.edge (index + 1) := by
  have le : index * m.pieceLength ≤ (index + 1) * m.pieceLength :=
    Nat.mul_le_mul_right _ (Nat.le_succ index)
  rw [edge, edge]
  omega

/-- The pieces up to an edge are as long together as that edge is far. -/
lemma sum_edges (count : Nat) :
    ((List.range count).map fun i => m.edge (i + 1) - m.edge i).sum = m.edge count := by
  induction count with
  | zero => simp [edge]
  | succ count ih =>
    have le : m.edge count ≤ m.edge (count + 1) := edge_le count
    rw [List.range_succ, List.map_append, List.sum_append, ih, List.map_singleton,
      List.sum_singleton]
    omega

/-- The sizes of pieces, each taken once, add up to no more than the content. -/
theorem sum_sizes_le (small : m.totalSize < 2 ^ 64) {indexes sizes : List Nat}
    (within : indexes.Sublist (List.range m.pieceCount))
    (sized : List.Forall₂ (fun i n => m.pieceSize? i = some n) indexes sizes) :
    sizes.sum ≤ m.totalSize := by
  have eq : sizes = indexes.map fun i => m.edge (i + 1) - m.edge i := by
    have valid : ∀ i ∈ indexes, i < m.pieceCount := fun i mem =>
      List.mem_range.mp (within.subset mem)
    clear within
    induction sized with
    | nil => rfl
    | @cons i n is ns size _ ih =>
      obtain ⟨first, others⟩ := List.forall_mem_cons.mp valid
      rw [pieceSize?_eq small first] at size
      rw [List.map_cons, ih others, Option.some.inj size]
  calc sizes.sum = (indexes.map fun i => m.edge (i + 1) - m.edge i).sum := congrArg _ eq
    _ ≤ ((List.range m.pieceCount).map fun i => m.edge (i + 1) - m.edge i).sum :=
      (within.map _).sum_le_sum fun _ _ => Nat.zero_le _
    _ = m.edge m.pieceCount := sum_edges _
    _ ≤ m.totalSize := Nat.min_le_right _ _

end Swarm.Torrent.Metainfo
