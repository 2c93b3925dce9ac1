import Mathlib.Data.Nat.Bitwise
import Swarm.Wire.Bitfield

/-!
# Bitfields as sets

A bitfield is read as the set of the indexes whose bits are one. Adding an index adds it to this set if
it is below the limit, and makes the field as long as its byte needs and no longer. So what a field holds
after some messages depends on the indexes below its limit alone.
-/

namespace Swarm.Wire.Bitfield

/-- A bit of bytes, where the high bit of the first byte is the first. -/
def bitAt (b : Bytes) (index : Nat) : Bool :=
  match b[index / 8]? with
  | some byte => byte.toNat.testBit (7 - index % 8)
  | none => false

/-- What a field holds after a message. -/
def tell (f : Bitfield) : Message → Bitfield
  | .bitfield b => .ofBytes b
  | .have piece => f.add piece.toNat
  | _ => f

/-- The indexes that messages tell of one by one. -/
def haves (ms : List Message) : List Nat :=
  ms.filterMap fun
    | .have piece => some piece.toNat
    | _ => none

variable {ms : List Message}

/-! ## Bits -/

/-- The mask of an index is a power of two. -/
lemma toNat_mask (index : Nat) : (mask index).toNat = 2 ^ (7 - index % 8) := by
  have low : index % 8 ≤ 7 := Nat.le_of_lt_succ (Nat.mod_lt _ (by decide))
  have small : 2 ^ (7 - index % 8) < 2 ^ 8 := Nat.pow_lt_pow_right (by decide) (by omega)
  rw [mask, Nat.shiftRight_eq_div_pow, show 128 = 2 ^ 7 from rfl, Nat.pow_div low (by decide)]
  exact UInt8.toNat_ofNat_of_lt' small

/-- The mask picks one bit. -/
lemma and_mask (byte : UInt8) (index : Nat) :
    (byte &&& mask index != 0) = byte.toNat.testBit (7 - index % 8) := by
  rw [Bool.eq_iff_iff, bne_iff_ne, ne_eq, ← UInt8.toNat_inj, UInt8.toNat_and, toNat_mask,
    Nat.and_two_pow]
  cases byte.toNat.testBit (7 - index % 8) <;> simp

/-- The mask sets one bit. -/
lemma or_mask (byte : UInt8) (i j : Nat) :
    (byte ||| mask j).toNat.testBit (7 - i % 8) =
      (byte.toNat.testBit (7 - i % 8) || decide (i % 8 = j % 8)) := by
  rw [UInt8.toNat_or, Nat.testBit_or, toNat_mask, Nat.testBit_two_pow]
  congr 2
  rw [eq_iff_iff]
  omega

/-- A piece is there if its bit is set. -/
lemma has_eq (f : Bitfield) (index : Nat) : f.has index = bitAt f.bits index := by
  rw [has, bitAt]
  cases f.bits[index / 8]? with
  | none => rfl
  | some byte => exact and_mask byte index

/-! ## Growing and adding -/

/-- Bits grow up to a byte and never shrink. -/
lemma length_grown (b : Bytes) (byte : Nat) : (grown b byte).length = max b.length (byte + 1) := by
  rw [grown, List.length_append, List.length_replicate]
  omega

/-- The bytes that are added hold no bits. -/
lemma bitAt_grown (b : Bytes) (byte index : Nat) : bitAt (grown b byte) index = bitAt b index := by
  rw [bitAt, bitAt, grown, List.getElem?_append]
  by_cases inside : index / 8 < b.length
  · rw [if_pos inside]
  · rw [if_neg inside, List.getElem?_replicate, List.getElem?_eq_none (Nat.not_lt.mp inside)]
    by_cases added : index / 8 - b.length < byte + 1 - b.length
    · rw [if_pos added]
      exact Nat.zero_testBit _
    · rw [if_neg added]

/-- Setting a bit changes this bit only. -/
lemma bitAt_modify (b : Bytes) (i j : Nat) (inside : j / 8 < b.length) :
    bitAt (b.modify (j / 8) (· ||| mask j)) i = (bitAt b i || decide (i = j)) := by
  rw [bitAt, bitAt, List.getElem?_modify]
  by_cases same : j / 8 = i / 8
  · have index : i = j ↔ i % 8 = j % 8 := by omega
    rw [List.getElem?_eq_getElem (same ▸ inside), Option.map_eq_map, Option.map_some, if_pos same,
      decide_eq_decide.mpr index]
    exact or_mask ..
  · have other : i ≠ j := fun eq => same (by rw [eq])
    simp only [if_neg same, Option.map_eq_map, Option.map_id', decide_eq_false other, Bool.or_false]

/-- Adding a piece leaves the limit alone. -/
lemma limit_add (f : Bitfield) (index : Nat) : (f.add index).limit = f.limit := by
  rw [add, add?]
  split <;> rfl

/-- Adding an index adds it alone, if it is below the limit. -/
theorem has_add (f : Bitfield) (i j : Nat) :
    (f.add j).has i = true ↔ f.has i = true ∨ (i < f.limit ∧ i = j) := by
  rw [has_eq, has_eq, add, add?]
  by_cases below : j < f.limit
  · have inside : j / 8 < (grown f.bits (j / 8)).length := by
      rw [length_grown]
      omega
    rw [if_pos below, Option.getD_some, bitAt_modify _ _ _ inside, bitAt_grown, Bool.or_eq_true,
      decide_eq_true_eq]
    exact or_congr_right ⟨fun eq => ⟨eq ▸ below, eq⟩, And.right⟩
  · rw [if_neg below, Option.getD_none]
    refine (or_iff_left ?_).symm
    rintro ⟨under, rfl⟩
    exact below under

/-- A field never shrinks, and has no byte beyond its limit but those that it had before. -/
lemma length_add (f : Bitfield) (index : Nat) :
    f.bits.length ≤ (f.add index).bits.length ∧
      (f.add index).bits.length ≤ max f.bits.length ((f.limit + 7) / 8) := by
  rw [add, add?]
  by_cases below : index < f.limit
  · rw [if_pos below, Option.getD_some, List.length_modify, length_grown]
    omega
  · rw [if_neg below, Option.getD_none]
    omega

/-! ## Adding in a row -/

/-- After adding pieces, those within the limit are there, and those that were there before. -/
theorem has_adds (f : Bitfield) (js : List Nat) (i : Nat) :
    (js.foldl add f).has i = true ↔ f.has i = true ∨ (i < f.limit ∧ i ∈ js) := by
  induction js generalizing f with
  | nil => simp
  | cons j js ih =>
    rw [List.foldl_cons, ih, has_add, limit_add, List.mem_cons]
    tauto

/-- Adding pieces makes the bits longer, but not beyond the limit. -/
theorem length_adds (f : Bitfield) (js : List Nat) :
    f.bits.length ≤ (js.foldl add f).bits.length ∧
      (js.foldl add f).bits.length ≤ max f.bits.length ((f.limit + 7) / 8) := by
  induction js generalizing f with
  | nil => exact ⟨Nat.le_refl _, Nat.le_max_left ..⟩
  | cons j js ih =>
    obtain ⟨grows, bounded⟩ := length_add f j
    obtain ⟨grows', bounded'⟩ := ih (f.add j)
    rw [limit_add] at bounded'
    rw [List.foldl_cons]
    omega

/-! ## Messages -/

/-- The pieces of HAVE messages. -/
lemma mem_haves {i : Nat} : i ∈ haves ms ↔ ∃ piece, Message.have piece ∈ ms ∧ piece.toNat = i := by
  simp only [haves, List.mem_filterMap]
  constructor
  · rintro ⟨m, mem, eq⟩
    cases m <;> cases eq
    exact ⟨_, mem, rfl⟩
  · rintro ⟨piece, mem, eq⟩
    exact ⟨.have piece, mem, congrArg some eq⟩

/-- Messages without a bitfield add what they tell of. -/
lemma foldl_tell (none : ∀ b, Message.bitfield b ∉ ms) (f : Bitfield) :
    ms.foldl tell f = (haves ms).foldl add f := by
  induction ms generalizing f with
  | nil => rfl
  | cons m ms ih =>
    have others : ∀ b, Message.bitfield b ∉ ms := fun b mem => none b (List.mem_cons_of_mem _ mem)
    cases m with
    | bitfield b => exact absurd List.mem_cons_self (none b)
    | _ => exact ih others _

/-- Without a bitfield, a field holds what it is told of below the fixed limit. -/
theorem foldl_tell_unknown (none : ∀ b, Message.bitfield b ∉ ms) :
    (ms.foldl tell unknown).bits.length ≤ maxBlock ∧
      ∀ i, (ms.foldl tell unknown).has i = true ↔ i < maxPieces ∧ i ∈ haves ms := by
  rw [foldl_tell none]
  refine ⟨(length_adds unknown (haves ms)).2, fun i => ?_⟩
  rw [has_adds]
  exact or_iff_right nofun

/-- A field holds the last bitfield, and what it is told of after that and has room for. -/
theorem foldl_tell_bitfield {later : List Message} (none : ∀ b, Message.bitfield b ∉ later)
    (before : List Message) (b : Bytes) (f : Bitfield) :
    ((before ++ .bitfield b :: later).foldl tell f).bits.length = b.length ∧
      ∀ i, ((before ++ .bitfield b :: later).foldl tell f).has i = true ↔
        bitAt b i = true ∨ (i < 8 * b.length ∧ i ∈ haves later) := by
  have last : (before ++ .bitfield b :: later).foldl tell f = (haves later).foldl add (ofBytes b) := by
    rw [List.foldl_append, List.foldl_cons, foldl_tell none]
    rfl
  rw [last]
  refine ⟨?_, fun i => ?_⟩
  · obtain ⟨long, short⟩ := length_adds (ofBytes b) (haves later)
    simp only [ofBytes] at long short ⊢
    omega
  · have bits : (ofBytes b).has i = bitAt b i := has_eq (ofBytes b) i
    rw [Nat.mul_comm, ← bits]
    exact has_adds (ofBytes b) (haves later) i

/-- Messages have a last bitfield, unless they have none. -/
lemma exists_last_bitfield (ms : List Message) :
    (∀ b, Message.bitfield b ∉ ms) ∨ ∃ before b later, ms = before ++ .bitfield b :: later ∧
      ∀ b', Message.bitfield b' ∉ later := by
  induction ms with
  | nil => exact .inl nofun
  | cons m ms ih =>
    rcases ih with none | ⟨before, b, later, rfl, none⟩
    · cases m with
      | bitfield b => exact .inr ⟨[], b, ms, rfl, none⟩
      | _ =>
        refine .inl fun b mem => none b ?_
        exact (List.mem_cons.mp mem).resolve_left nofun
    · exact .inr ⟨m :: before, b, later, rfl, none⟩

end Swarm.Wire.Bitfield
