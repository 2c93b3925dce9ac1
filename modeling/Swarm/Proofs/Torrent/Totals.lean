import Mathlib.Algebra.BigOperators.Group.List.Basic
import Mathlib.Algebra.GroupWithZero.Nat
import Swarm.Torrent.Metainfo

/-!
# Totals of file sizes

The sizes of files are added up in two ways. When a torrent is read, a sum that does not fit in 64 bits
refuses it; when the total is asked for, a sum that does not fit is cut off. The first way fails exactly
if the exact sum does not fit. So the total of files that were read is never cut off.
-/

namespace Swarm.Torrent

/-- The exact size of a content in bytes. -/
def Content.size : Content → Nat
  | .single n => n
  | .files fs => (fs.map File.length).sum

/-- A saturated number fits in 64 bits. -/
lemma saturate_lt (n : Nat) : saturate n < limit64 :=
  Nat.lt_of_le_of_lt (Nat.min_le_right _ _) (by decide)

/-- A number that fits in 64 bits is not saturated. -/
lemma saturate_of_lt {n : Nat} (small : n < limit64) : saturate n = n :=
  Nat.min_eq_left (Nat.le_sub_one_of_lt small)

/-- What was cut off stays lost, and what is cut off later is cut off at the same place. -/
lemma saturate_add (a b : Nat) : saturate (saturate a + b) = saturate (a + b) := by
  simp only [saturate]
  omega

namespace Metainfo

variable {files : List File} {total : Nat}

/-- Saturating at every step comes to saturating the sum. -/
lemma foldl_saturate (files : List File) (total : Nat) :
    files.foldl (fun total f => saturate (total + f.length)) (saturate total) =
      saturate (total + (files.map File.length).sum) := by
  induction files generalizing total with
  | nil => rfl
  | cons f files ih =>
    rw [List.foldl_cons, saturate_add, ih, List.map_cons, List.sum_cons, Nat.add_assoc]

/-- The total of several files is their exact sum, cut off. -/
lemma totalSize_files {m : Metainfo} (several : m.content = .files files) :
    m.totalSize = saturate (files.map File.length).sum := by
  rw [totalSize, several]
  exact (foldl_saturate files 0).trans (congrArg saturate (Nat.zero_add _))

/-- Adding with a check at every step comes to checking the sum. -/
lemma foldlM_addSize? (small : total < limit64) {sum : Nat} :
    files.foldlM addSize? total = some sum ↔
      total + (files.map File.length).sum = sum ∧ sum < limit64 := by
  induction files generalizing total with
  | nil =>
    rw [List.foldlM_nil, List.map_nil, List.sum_nil, Nat.add_zero]
    constructor
    · rintro ⟨⟩
      exact ⟨rfl, small⟩
    · rintro ⟨rfl, -⟩
      rfl
  | cons f files ih =>
    rw [List.foldlM_cons, List.map_cons, List.sum_cons, ← Nat.add_assoc, addSize?]
    split
    case isTrue fits => exact ih fits
    case isFalse excess =>
      refine ⟨nofun, ?_⟩
      rintro ⟨rfl, fits⟩
      omega

/-- Adding up succeeds with the exact sum if this fits in 64 bits, whatever the sums on the way. -/
theorem total?_eq_some {sum : Nat} :
    total? files = some sum ↔ (files.map File.length).sum = sum ∧ sum < limit64 := by
  rw [total?, foldlM_addSize? (by decide), Nat.zero_add]

/-- There is no total exactly if the sum does not fit in 64 bits. -/
theorem total?_eq_none : total? files = none ↔ limit64 ≤ (files.map File.length).sum := by
  constructor
  · intro excess
    by_contra fits
    have sum := total?_eq_some.mpr ⟨rfl, Nat.lt_of_not_le fits⟩
    rw [excess] at sum
    cases sum
  · intro large
    cases added : total? files with
    | none => rfl
    | some sum =>
      obtain ⟨rfl, fits⟩ := total?_eq_some.mp added
      exact absurd large (Nat.not_le_of_lt fits)

end Metainfo

end Swarm.Torrent
