import Mathlib.Data.Finset.Card
import Swarm.Proofs.Wire.Bitfield

/-!
# Bitfields as bounded sets

However a field is made, it behaves as a set of indexes below a limit. An index is taken exactly if it is
below the limit, and a field that refuses one stays as it is. What a field holds in the end is what it
held at first and the indexes that it took; it counts them, needs no byte past its limit, and is the same
in whatever order the indexes came.
-/

namespace Swarm.Wire.Bitfield

/-- The ways to make a field: its limit, and the bytes whose bits it holds at first. -/
inductive Made : Bitfield → (limit : Nat) → (initial : Bytes) → Prop where
  | count {n} :
    Made (ofCount n) n []
  | bytes {b} :
    Made (ofBytes b) (8 * b.length) b
  | unknown :
    Made unknown maxPieces []

variable {f : Bitfield} {limit n : Nat} {initial b b' : Bytes} {js js' : List Nat}

/-! ## Bytes by their bits -/

/-- No bit of zeros is set. -/
lemma bitAt_replicate (n i : Nat) : bitAt (List.replicate n 0) i = false := by
  rw [bitAt, List.getElem?_replicate]
  by_cases inside : i / 8 < n
  · rw [if_pos inside]
    exact Nat.zero_testBit _
  · rw [if_neg inside]

/-- A bit that is set lies inside. -/
lemma lt_of_bitAt {i : Nat} (h : bitAt b i = true) : i < 8 * b.length := by
  by_contra outside
  have past : b.length ≤ i / 8 := by omega
  rw [bitAt, List.getElem?_eq_none past] at h
  cases h

/-- Bytes that are as many and have the same bits are the same. -/
lemma eq_of_bitAt (length : b.length = b'.length) (same : ∀ i, bitAt b i = bitAt b' i) : b = b' := by
  refine List.ext_getElem length fun k inside inside' => ?_
  apply UInt8.toNat_inj.mp
  apply Nat.eq_of_testBit_eq
  intro i
  by_cases low : i < 8
  · have place : (8 * k + (7 - i)) / 8 = k := by omega
    have bit : 7 - (8 * k + (7 - i)) % 8 = i := by omega
    have eq := same (8 * k + (7 - i))
    rwa [bitAt, bitAt, place, bit, List.getElem?_eq_getElem inside,
      List.getElem?_eq_getElem inside'] at eq
  · have past (byte : UInt8) : byte.toNat.testBit i = false := by
      apply Nat.testBit_lt_two_pow
      exact Nat.lt_of_lt_of_le byte.toNat_lt (Nat.pow_le_pow_right (by decide) (Nat.le_of_not_lt low))
    rw [past, past]

/-! ## Counting -/

/-- The first eight bits are those of the first byte. -/
lemma bitAt_head {byte : UInt8} {i : Nat} (low : i < 8) :
    bitAt (byte :: b) i = (byte &&& mask i != 0) := by
  rw [and_mask, bitAt, Nat.div_eq_of_lt low]
  rfl

/-- The bits from the ninth on are those of the other bytes. -/
lemma bitAt_tail (byte : UInt8) (b : Bytes) (i : Nat) : bitAt (byte :: b) (8 + i) = bitAt b i := by
  have place : (8 + i) / 8 = i / 8 + 1 := by omega
  have bit : (8 + i) % 8 = i % 8 := by omega
  rw [bitAt, bitAt, place, bit, List.getElem?_cons_succ]

/-- The bits of the first byte are counted, and then those of the others. -/
lemma countP_bitAt (byte : UInt8) (b : Bytes) :
    (List.range (8 * (byte :: b).length)).countP (bitAt (byte :: b)) =
      ones byte + (List.range (8 * b.length)).countP (bitAt b) := by
  have total : 8 * (byte :: b).length = 8 + 8 * b.length := by
    rw [List.length_cons, Nat.mul_succ, Nat.add_comm]
  rw [total, List.range_add, List.countP_append, List.countP_map]
  congr 1
  · apply List.countP_congr
    intro i low
    rw [bitAt_head (List.mem_range.mp low)]
  · apply List.countP_congr
    intro i _
    rw [Function.comp_apply, bitAt_tail]

/-- The ones of all bytes are the bits that are set. -/
lemma foldl_ones (b : Bytes) (n : Nat) :
    b.foldl (fun n byte => n + ones byte) n =
      n + (List.range (8 * b.length)).countP (bitAt b) := by
  induction b generalizing n with
  | nil => rfl
  | cons byte b ih => rw [List.foldl_cons, ih, countP_bitAt, Nat.add_assoc]

/-- A field counts the indexes that it holds. -/
theorem exists_held (f : Bitfield) :
    ∃ held : Finset Nat, (∀ j, j ∈ held ↔ f.has j = true) ∧ f.count = held.card := by
  refine ⟨((List.range (8 * f.bits.length)).filter (bitAt f.bits)).toFinset, fun j => ?_, ?_⟩
  · rw [List.mem_toFinset, List.mem_filter, List.mem_range, has_eq]
    exact and_iff_right_of_imp lt_of_bitAt
  · rw [List.toFinset_card_of_nodup (List.nodup_range.filter _), ← List.countP_eq_length_filter, count,
      foldl_ones, Nat.zero_add]

/-! ## Adding -/

/-- A piece is taken exactly if it is within the limit. -/
lemma isSome_add? (f : Bitfield) (j : Nat) : (f.add? j).isSome ↔ j < f.limit := by
  rw [add?]
  split <;> simp [*]

/-- A piece that is not taken changes nothing. -/
lemma add_of_add?_eq_none {j : Nat} (h : f.add? j = none) : f.add j = f := by
  rw [add, h, Option.getD_none]

/-- Adding pieces leaves the limit alone. -/
lemma limit_adds (f : Bitfield) (js : List Nat) : (js.foldl add f).limit = f.limit := by
  induction js generalizing f with
  | nil => rfl
  | cons j js ih => rw [List.foldl_cons, ih, limit_add]

/-- A field that has taken an index has the byte of this index, and otherwise it does not grow. -/
lemma length_add_le_iff (f : Bitfield) (j : Nat) :
    (f.add j).bits.length ≤ n ↔ f.bits.length ≤ n ∧ (j < f.limit → j / 8 < n) := by
  rw [add, add?]
  by_cases below : j < f.limit
  · rw [if_pos below, Option.getD_some, List.length_modify, length_grown]
    omega
  · rw [if_neg below, Option.getD_none]
    exact (and_iff_left fun under => absurd under below).symm

/-- Adding pieces keeps the bits short exactly if they are short and no piece needs more. -/
lemma length_adds_le_iff (f : Bitfield) (js : List Nat) :
    (js.foldl add f).bits.length ≤ n ↔
      f.bits.length ≤ n ∧ ∀ j ∈ js, j < f.limit → j / 8 < n := by
  induction js generalizing f with
  | nil => simp
  | cons j js ih => rw [List.foldl_cons, ih, length_add_le_iff, limit_add, List.forall_mem_cons, and_assoc]

/-- A field depends on the indexes that it takes, and on nothing else of what it is given. -/
theorem adds_congr (same : ∀ j < f.limit, (j ∈ js ↔ j ∈ js')) : js.foldl add f = js'.foldl add f := by
  have limit : (js.foldl add f).limit = (js'.foldl add f).limit := by rw [limit_adds, limit_adds]
  have bits (i : Nat) : bitAt (js.foldl add f).bits i = bitAt (js'.foldl add f).bits i := by
    rw [← has_eq, ← has_eq, Bool.eq_iff_iff, has_adds, has_adds]
    exact or_congr_right (and_congr_right (same i))
  have fits (m : Nat) :
      (js.foldl add f).bits.length ≤ m ↔ (js'.foldl add f).bits.length ≤ m := by
    rw [length_adds_le_iff, length_adds_le_iff]
    refine and_congr_right fun _ => ⟨fun all j mem below => ?_, fun all j mem below => ?_⟩
    · exact all j ((same j below).mpr mem) below
    · exact all j ((same j below).mp mem) below
  have length : (js.foldl add f).bits.length = (js'.foldl add f).bits.length :=
    Nat.le_antisymm ((fits _).mpr (Nat.le_refl _)) ((fits _).mp (Nat.le_refl _))
  have bytes := eq_of_bitAt length bits
  generalize js.foldl add f = g at limit bytes
  generalize js'.foldl add f = g' at limit bytes
  cases g
  cases g'
  cases limit
  cases bytes
  rfl

/-! ## Fields as they are made -/

namespace Made

/-- A bitfield has the limit that it was made with. -/
lemma limit_eq (made : Made f limit initial) : f.limit = limit := by
  cases made with
  | count => rfl
  | bytes => exact Nat.mul_comm ..
  | unknown => rfl

/-- A bitfield has the pieces that it was made with. -/
lemma has_iff (made : Made f limit initial) (j : Nat) : f.has j = bitAt initial j := by
  rw [has_eq]
  cases made with
  | count => exact bitAt_replicate ..
  | bytes => rfl
  | unknown => rfl

/-- A bitfield is no longer than its limit when it is made. -/
lemma length_le (made : Made f limit initial) : f.bits.length ≤ (limit + 7) / 8 := by
  cases made with
  | count => exact Nat.le_of_eq List.length_replicate
  | bytes =>
    simp only [ofBytes]
    omega
  | unknown => exact Nat.zero_le _

end Made

/-- Whatever indexes a field is given after it was made, it is a set below its limit: it takes
exactly the indexes below the limit and refuses the others without a change. It holds what it held
at first and what it took, and counts just this. It does not shrink, needs no byte past its limit,
and does not depend on the order. -/
theorem adds_bounded (made : Made f limit initial) (js : List Nat) :
    let g := js.foldl add f
    (∀ j, ((g.add? j).isSome ↔ j < limit) ∧ (g.add? j = none → g.add j = g) ∧
      g.bits.length ≤ (g.add j).bits.length) ∧
    (∀ j, g.has j = true ↔ bitAt initial j = true ∨
      ∃ before later, js = before ++ j :: later ∧ ((before.foldl add f).add? j).isSome) ∧
    (∃ held : Finset Nat, (∀ j, j ∈ held ↔ g.has j = true) ∧ g.count = held.card) ∧
    g.bits.length ≤ (limit + 7) / 8 ∧
    ∀ js' : List Nat, js'.Perm js → js'.foldl add f = g := by
  intro g
  have bound := made.limit_eq
  refine ⟨fun j => ⟨?_, add_of_add?_eq_none, (length_add g j).1⟩, fun j => ?_, exists_held g, ?_,
    fun js' order => adds_congr fun j _ => order.mem_iff⟩
  · rw [isSome_add?, limit_adds, bound]
  · have taken : (j < f.limit ∧ j ∈ js) ↔
        ∃ before later, js = before ++ j :: later ∧ ((before.foldl add f).add? j).isSome := by
      simp only [isSome_add?, limit_adds]
      constructor
      · rintro ⟨below, mem⟩
        obtain ⟨before, later, eq⟩ := List.append_of_mem mem
        exact ⟨before, later, eq, below⟩
      · rintro ⟨before, later, rfl, below⟩
        exact ⟨below, List.mem_append_right _ List.mem_cons_self⟩
    rw [has_adds, made.has_iff, taken]
  · have short := made.length_le
    apply (length_adds_le_iff f js).mpr
    refine ⟨short, fun j _ below => ?_⟩
    omega

/-- A field for twelve pieces is given the last of them, one past the limit, one twice, and the
first. -/
theorem adds_bounded_twelve :
    let js := [11, 12, 3, 3, 0]
    let g := js.foldl add (ofCount 12)
    Made (ofCount 12) 12 [] ∧ g.bits = [0x90, 0x10] ∧ g.has 11 = true ∧ g.has 12 = false ∧
      (∃ held : Finset Nat, (∀ j, j ∈ held ↔ g.has j = true) ∧ held.card = 3) ∧
      [0, 3, 3, 11, 12].foldl add (ofCount 12) = g := by
  intro js g
  obtain ⟨-, holds, ⟨held, mem, count⟩, -, order⟩ := adds_bounded (@Made.count 12) js
  refine ⟨.count, by decide, ?_, by decide, ⟨held, mem, ?_⟩, order _ (by decide)⟩
  · exact (holds 11).mpr (.inr ⟨[], [12, 3, 3, 0], rfl, by decide⟩)
  · rw [← count]
    decide

end Swarm.Wire.Bitfield
