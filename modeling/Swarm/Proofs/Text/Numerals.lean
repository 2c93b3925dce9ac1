import Mathlib.Tactic.Lemma
import Swarm.Text.Numeral

/-!
# Reading numerals

Digits are read as the number that they spell. So the decimal of a number is read as this number,
wherever it fits.
-/

namespace Swarm.Text.Numeral

variable {base limit n : Nat} {cs : List Char}

/-- Digits are read one part after the other. -/
lemma digitsFrom?_append (base n : Nat) (cs cs' : List Char) :
    digitsFrom? base n (cs ++ cs') = (digitsFrom? base n cs).bind (digitsFrom? base · cs') := by
  induction cs generalizing n with
  | nil => rfl
  | cons c cs ih =>
    rw [List.cons_append, digitsFrom?, digitsFrom?]
    cases digit? base c with
    | none => rfl
    | some d => exact ih _

/-- Digits without a sign are read as the number that they spell. -/
lemma natural?_eq_some (nonempty : cs ≠ []) (spelled : digitsFrom? base 0 cs = some n)
    (small : n < limit) : natural? base limit cs = some n := by
  obtain ⟨c, cs, rfl⟩ := List.exists_cons_of_ne_nil nonempty
  have unsigned : c ≠ '+' := by
    rintro rfl
    have none : digit? base '+' = none := by simp [digit?]
    rw [digitsFrom?, none] at spelled
    cases spelled
  rw [natural?, digits?, spelled, Option.filter_some, if_pos (decide_eq_true small)]
  · nofun
  · exact fun _ signed => unsigned (List.cons.inj signed).1

/-! ## Decimals -/

/-- A decimal digit stands for its distance from zero. -/
lemma digit?_digit {c : Char} (h : c.isDigit = true) : digit? 10 c = some (c.toNat - 48) := by
  simp only [Char.isDigit, Bool.and_eq_true, decide_eq_true_eq] at h
  have decimal : '0' ≤ c ∧ c ≤ '9' := h
  have high : c.toNat ≤ 57 := UInt32.le_iff_toNat_le.mp h.2
  have value : c.toNat - 48 < 10 := by omega
  simp only [digit?]
  rw [if_pos decimal, if_pos value]

/-- Decimal digits are read. -/
lemma digitsFrom?_digits (digits : ∀ c ∈ cs, c.isDigit = true) (n : Nat) :
    digitsFrom? 10 n cs = some (Nat.ofDigitChars 10 cs n) := by
  induction cs generalizing n with
  | nil => rfl
  | cons c cs ih =>
    obtain ⟨digit, others⟩ := List.forall_mem_cons.mp digits
    rw [digitsFrom?, digit?_digit digit]
    dsimp only
    rw [ih others, Nat.mul_comm]
    rfl

/-- A number in decimal consists of digits. -/
lemma isDigit_of_mem_decimal {c : Char} (h : c ∈ decimal n) : c.isDigit = true :=
  Nat.isDigit_of_mem_toDigits (by decide) (by decide) h

/-- The decimal of a number that fits is read as this number. -/
theorem natural?_decimal (small : n < limit) : natural? 10 limit (decimal n) = some n := by
  refine natural?_eq_some Nat.toDigits_ne_nil ?_ small
  rw [digitsFrom?_digits fun _ => isDigit_of_mem_decimal]
  exact congrArg some (Nat.ofDigitChars_toDigits (by decide) (by decide))

end Swarm.Text.Numeral
