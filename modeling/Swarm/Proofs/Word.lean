import Mathlib.Algebra.Group.Nat.Defs
import Swarm.Bytes

/-!
# Words

A number that is written as a word of some width and read back is the same up to the size of the
word, and bytes that are read as a number are written back as they were.
-/

namespace Swarm.Bytes

/-- Reading back a written word gives the number modulo the size of the word. -/
theorem number_word (width n : Nat) : number (word width n) = n % 256 ^ width := by
  induction width generalizing n with
  | zero => simp [word, Nat.mod_one]
  | succ width ih =>
    rw [word, number_concat, ih, Nat.pow_succ', Nat.mod_mul, UInt8.toNat_ofNat']
    omega

/-- Writing a number that was read gives back its bytes. -/
theorem word_number (b : Bytes) : word b.length (number b) = b := by
  induction h : b.length generalizing b with
  | zero =>
    rw [List.length_eq_zero_iff.mp h]
    rfl
  | succ width ih =>
    obtain ⟨b, x, rfl⟩ : ∃ b' x, b = b' ++ [x] :=
      ⟨b.dropLast, b.getLast (by rintro rfl; cases h), (List.dropLast_concat_getLast _).symm⟩
    have size : b.length = width := by simpa using h
    have high : (number b * 256 + x.toNat) / 256 = number b := by
      have := x.toNat_lt
      omega
    have low : UInt8.ofNat (number b * 256 + x.toNat) = x := by
      apply UInt8.toNat_inj.mp
      have := x.toNat_lt
      rw [UInt8.toNat_ofNat']
      omega
    rw [word, number_concat, high, low, ih b size]

/-- A byte string of a certain length spells a number of that many digits in base 256. -/
theorem number_lt (b : Bytes) : number b < 256 ^ b.length := by
  rw [← word_number b, number_word, length_word]
  exact Nat.mod_lt _ (Nat.pow_pos (by decide))

/-- A number that was read fits its bytes, so writing it modulo their size changes nothing. -/
theorem word_number_mod {b : Bytes} {width : Nat} (h : b.length = width) :
    word width (number b % 256 ^ width) = b := by
  rw [← h, Nat.mod_eq_of_lt (number_lt b), word_number]

/-- Reading back a written 16-bit word gives that word. -/
theorem word16_word (n : UInt16) : word16 (word 2 n.toNat) = n := by
  apply UInt16.toNat_inj.mp
  have := n.toNat_lt
  rw [word16, UInt16.toNat_ofNat', number_word]
  omega

/-- Writing a 16-bit word that was read gives back its two bytes. -/
theorem word_word16 {b : Bytes} (h : b.length = 2) : word 2 (word16 b).toNat = b := by
  rw [word16, UInt16.toNat_ofNat']
  exact word_number_mod h

/-- Reading back a written 32-bit word gives that word. -/
theorem word32_word (n : UInt32) : word32 (word 4 n.toNat) = n := by
  apply UInt32.toNat_inj.mp
  have := n.toNat_lt
  rw [word32, UInt32.toNat_ofNat', number_word]
  omega

/-- Writing a 32-bit word that was read gives back its four bytes. -/
theorem word_word32 {b : Bytes} (h : b.length = 4) : word 4 (word32 b).toNat = b := by
  rw [word32, UInt32.toNat_ofNat']
  exact word_number_mod h

/-- A 32-bit word in front, and what follows it. -/
theorem append_word32 {b : Bytes} (long : 4 ≤ b.length) :
    word 4 (word32 (b.take 4)).toNat ++ b.drop 4 = b := by
  rw [word_word32 (by rw [List.length_take]; omega), List.take_append_drop]

/-- Two 32-bit words in front, and what follows them. -/
theorem append_words32 {b : Bytes} (long : 8 ≤ b.length) :
    word 4 (word32 (b.take 4)).toNat ++
      (word 4 (word32 ((b.drop 4).take 4)).toNat ++ b.drop 8) = b := by
  have rest := append_word32 (b := b.drop 4) (by rw [List.length_drop]; omega)
  rw [List.drop_drop] at rest
  rw [rest]
  exact append_word32 (by omega)

/-- Reading back a written 64-bit word gives that word. -/
theorem word64_word (n : UInt64) : word64 (word 8 n.toNat) = n := by
  apply UInt64.toNat_inj.mp
  have := n.toNat_lt
  rw [word64, UInt64.toNat_ofNat', number_word]
  omega

/-- Writing a 64-bit word that was read gives back its eight bytes. -/
theorem word_word64 {b : Bytes} (h : b.length = 8) : word 8 (word64 b).toNat = b := by
  rw [word64, UInt64.toNat_ofNat']
  exact word_number_mod h

end Swarm.Bytes
