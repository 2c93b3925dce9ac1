import Mathlib.Algebra.Group.Nat.Defs
import Mathlib.Data.List.Basic
import Swarm.Text.Utf8

/-!
# Texts cut at ASCII bytes

A byte below 128 is a character of its own wherever it stands, also where it breaks off the sequence
of another character. So the text of a byte string can be cut at such a byte, and a character of ASCII
comes from nothing but its byte.
-/

namespace Swarm.Text.Utf8

variable {a b xs rest : Bytes} {x first low high : UInt8} {count bits : Nat} {c : Char}

/-! ## Steps through bytes -/

/-- What is left after the bytes that follow a lead is an end of the bytes. -/
lemma following_suffix (count : Nat) (low high : UInt8) (bits : Nat) (b : Bytes) :
    (following count low high bits b).2 <:+ b := by
  fun_induction following count low high bits b with
  | case3 low high bits count y rest inside ih => exact ih.trans (List.suffix_cons y rest)
  | _ => exact List.suffix_rfl

/-- What is left after a step is an end of the bytes. -/
lemma step_suffix (first : UInt8) (rest : Bytes) : (step first rest).2 <:+ rest := by
  fun_cases step first rest with
  | case3 => exact following_suffix ..
  | _ => exact List.suffix_rfl

/-- A step leaves no more than there was. -/
lemma step_length (first : UInt8) (rest : Bytes) : (step first rest).2.length ≤ rest.length :=
  (step_suffix first rest).length_le

/-- The steps from some byte are one step and those from what it leaves. -/
lemma stepsFrom_cons (done : List (Option Char)) (y first : UInt8) (fuel rest : Bytes) :
    stepsFrom done (y :: fuel) (first :: rest) =
      stepsFrom ((step first rest).1 :: done) fuel (step first rest).2 := rfl

/-- The steps taken so far come first. -/
lemma stepsFrom_done (done : List (Option Char)) (fuel b : Bytes) :
    stepsFrom done fuel b = done.reverse ++ stepsFrom [] fuel b := by
  induction fuel generalizing done b with
  | nil => simp [stepsFrom]
  | cons y fuel ih =>
    cases b with
    | nil => simp [stepsFrom]
    | cons first rest =>
      rw [stepsFrom_cons, stepsFrom_cons, ih, ih [_]]
      simp

/-- More fuel than bytes changes nothing. -/
lemma stepsFrom_fuel {fuel fuel' : Bytes} (enough : b.length ≤ fuel.length)
    (enough' : b.length ≤ fuel'.length) : stepsFrom [] fuel b = stepsFrom [] fuel' b := by
  induction fuel generalizing fuel' b with
  | nil =>
    obtain rfl : b = [] := List.length_eq_zero_iff.mp (Nat.le_zero.mp enough)
    simp [stepsFrom]
  | cons y fuel ih =>
    cases b with
    | nil => simp [stepsFrom]
    | cons first rest =>
      cases fuel' with
      | nil => cases enough'
      | cons y' fuel' =>
        rw [List.length_cons, List.length_cons, Nat.add_le_add_iff_right] at enough enough'
        have shorter := step_length first rest
        rw [stepsFrom_cons, stepsFrom_cons, stepsFrom_done, stepsFrom_done [_] fuel',
          ih (Nat.le_trans shorter enough) (Nat.le_trans shorter enough')]

/-- A byte string is stepped through by a step at its first byte and steps through what is not read
with it. -/
lemma steps_cons (first : UInt8) (rest : Bytes) :
    steps (first :: rest) = (step first rest).1 :: steps (step first rest).2 := by
  have shorter := step_length first rest
  rw [steps, stepsFrom_cons, stepsFrom_done, stepsFrom_fuel shorter (Nat.le_refl _)]
  rfl

/-- Nothing needs no repair. -/
@[simp] lemma repaired_nil : repaired [] = [] := rfl

/-- The text of a byte string is its first character and the text of what is not read with it. -/
lemma repaired_cons (first : UInt8) (rest : Bytes) :
    repaired (first :: rest) =
      (step first rest).1.getD '\uFFFD' :: repaired (step first rest).2 := by
  rw [repaired, steps_cons]
  rfl

/-- What is repaired is not empty unless there was nothing. -/
lemma repaired_ne_nil (h : b ≠ []) : repaired b ≠ [] := by
  obtain ⟨first, rest, rfl⟩ := List.exists_cons_of_ne_nil h
  rw [repaired_cons]
  nofun

/-- A byte of the lower half is a character by itself. -/
lemma repaired_ascii (ascii : x < 0x80) (rest : Bytes) :
    repaired (x :: rest) = Char.ofNat x.toNat :: repaired rest := by
  rw [repaired_cons, step, if_pos ascii]
  rfl

/-- Bytes of the lower half are characters by themselves. -/
lemma repaired_asciis (ascii : ∀ x ∈ a, x < 0x80) (b : Bytes) :
    repaired (a ++ b) = a.map (fun x => Char.ofNat x.toNat) ++ repaired b := by
  induction a with
  | nil => rfl
  | cons x a ih =>
    obtain ⟨first, others⟩ := List.forall_mem_cons.mp ascii
    rw [List.cons_append, repaired_ascii first, ih others, List.map_cons, List.cons_append]

/-! ## Cuts -/

/-- What may follow a lead is in the upper half. -/
lemma Lead.low_ge {lead : Lead} (h : Lead.ofByte? first = some lead) : 0x80 ≤ lead.low := by
  revert h
  fun_cases Lead.ofByte? first with
  | case1 | case9 => nofun
  | _ =>
    rintro ⟨⟩
    exact UInt8.le_iff_toNat_le.mpr (by simp)

/-- A byte below those that may follow ends a sequence and is not read. -/
lemma following_append (low_ge : 0x80 ≤ low) (ascii : x < 0x80) (a b : Bytes) :
    following count low high bits (a ++ x :: b) =
      ((following count low high bits a).1, (following count low high bits a).2 ++ x :: b) := by
  fun_induction following count low high bits a with
  | case1 => rw [following]
  | case2 low high bits count =>
    have outside : ¬ (low ≤ x ∧ x ≤ high) := fun inside =>
      absurd (UInt8.lt_of_lt_of_le ascii (UInt8.le_trans low_ge inside.1)) (UInt8.lt_irrefl x)
    rw [List.nil_append, following, if_neg outside]
  | case3 low high bits count y rest inside ih =>
    rw [List.cons_append, following, if_pos inside]
    exact ih (UInt8.le_refl _)
  | case4 low high bits count y rest outside =>
    rw [List.cons_append, following, if_neg outside]

/-- A byte of the lower half ends a step, and what follows it has no say in that. -/
lemma step_append (ascii : x < 0x80) (first : UInt8) (a b : Bytes) :
    step first (a ++ x :: b) = ((step first a).1, (step first a).2 ++ x :: b) := by
  fun_cases step first a with
  | case1 low => rw [step, if_pos low]
  | case2 high none => rw [step, if_neg high, none]
  | case3 high lead found =>
    rw [step, if_neg high, found]
    exact following_append (Lead.low_ge found) ascii a b

/-- The text of a byte string can be cut at any ASCII byte. -/
theorem repaired_append (ascii : x < 0x80) (a b : Bytes) :
    repaired (a ++ x :: b) = repaired a ++ Char.ofNat x.toNat :: repaired b := by
  -- a step takes off more than one byte, so the induction is on how many there are
  induction h : a.length using Nat.strongRecOn generalizing a with
  | ind size ih =>
    cases a with
    | nil => exact repaired_ascii ascii b
    | cons first rest =>
      have shorter : (step first rest).2.length < size := by
        have := step_length first rest
        rw [← h, List.length_cons]
        omega
      rw [List.cons_append, repaired_cons, repaired_cons, step_append ascii, ih _ shorter _ rfl,
        List.cons_append]

/-- Parts with bytes of ASCII between them have texts with their characters between them. -/
theorem repaired_intercalate (ascii : ∀ y ∈ x :: xs, y < 0x80) (parts : List Bytes) :
    repaired ((x :: xs).intercalate parts) =
      ((x :: xs).map fun y => Char.ofNat y.toNat).intercalate (parts.map repaired) := by
  obtain ⟨first, others⟩ := List.forall_mem_cons.mp ascii
  induction parts with
  | nil => rfl
  | cons part parts ih =>
    cases parts with
    | nil => simp
    | cons part' parts =>
      have texts : (part :: part' :: parts).map repaired =
          repaired part :: repaired part' :: parts.map repaired := rfl
      rw [texts, List.intercalate_cons_cons, List.intercalate_cons_cons, List.append_assoc,
        List.cons_append, repaired_append first, repaired_asciis others, ih, List.append_assoc]
      rfl

/-! ## Characters of ASCII -/

/-- A number is that of its character, or the character is the null one. -/
lemma toNat_ofNat (n : Nat) : (Char.ofNat n).toNat = n ∨ (Char.ofNat n).toNat = 0 := by
  by_cases valid : n.isValidChar
  · rw [Char.ofNat, dif_pos valid]
    exact .inl rfl
  · rw [Char.ofNat, dif_neg valid]
    exact .inr rfl

/-- The bytes that follow make a number greater. -/
lemma following_not_ascii (least : 0x80 ≤ bits * 64 ^ count)
    (h : (following count 0x80 0xBF bits b).1 = some c) : c.toNat = 0 ∨ 0x80 ≤ c.toNat := by
  induction count generalizing bits b with
  | zero =>
    rw [following] at h
    cases h
    rcases toNat_ofNat bits with same | none
    · rw [same]
      exact .inr (by simpa using least)
    · exact .inl none
  | succ count ih =>
    cases b with
    | nil => cases h
    | cons y rest =>
      rw [following] at h
      split at h
      case isFalse => cases h
      case isTrue =>
        refine ih ?_ h
        calc 0x80 ≤ bits * 64 ^ (count + 1) := least
          _ = bits * 64 * 64 ^ count := by rw [Nat.pow_succ', Nat.mul_assoc]
          _ ≤ (bits * 64 + y.toNat % 64) * 64 ^ count :=
            Nat.mul_le_mul_right _ (Nat.le_add_right _ _)

/-- The bounds on the second byte exclude overlong forms. -/
lemma Lead.least {lead : Lead} (h : Lead.ofByte? first = some lead) :
    ∃ count, lead.follow = count + 1 ∧ lead.high ≤ 0xBF ∧
      0x80 ≤ (lead.bits * 64 + lead.low.toNat % 64) * 64 ^ count := by
  revert h
  fun_cases Lead.ofByte? first with
  | case1 | case9 => nofun
  | _ =>
    rintro ⟨⟩
    refine ⟨_, rfl, UInt8.le_iff_toNat_le.mpr (by simp), ?_⟩
    simp only [UInt8.reduceToNat]
    omega

/-- Several bytes yield no character of ASCII, except where they yield no code point. -/
lemma step_not_ascii (multiple : ¬ first < 0x80) (h : (step first rest).1 = some c) :
    c.toNat = 0 ∨ 0x80 ≤ c.toNat := by
  rw [step, if_neg multiple] at h
  cases found : Lead.ofByte? first with
  | none => rw [found] at h; cases h
  | some lead =>
    obtain ⟨count, follow, high_le, least⟩ := Lead.least found
    rw [found] at h
    simp only [follow] at h
    cases rest with
    | nil => cases h
    | cons y rest =>
      rw [following] at h
      split at h
      case isFalse => cases h
      case isTrue inside =>
        -- the second byte adds at least as much as the least one
        have more : lead.low.toNat % 64 ≤ y.toNat % 64 := by
          have := UInt8.le_iff_toNat_le.mp (Lead.low_ge found)
          have := UInt8.le_iff_toNat_le.mp inside.1
          have := UInt8.le_iff_toNat_le.mp (UInt8.le_trans inside.2 high_le)
          simp only [UInt8.reduceToNat] at *
          omega
        exact following_not_ascii
          (Nat.le_trans least (Nat.mul_le_mul_right _ (Nat.add_le_add_left more _))) h

/-- A byte of the lower half has the number of its character. -/
lemma toNat_ofNat_ascii (ascii : x < 0x80) : (Char.ofNat x.toNat).toNat = x.toNat := by
  have small : x.toNat < 0x80 := UInt8.lt_iff_toNat_lt.mp ascii
  rw [Char.ofNat, dif_pos (Or.inl (by omega))]
  rfl

/-- A character of ASCII comes from its byte. -/
theorem mem_of_mem_repaired (positive : 0 < x) (ascii : x < 0x80)
    (h : Char.ofNat x.toNat ∈ repaired b) : x ∈ b := by
  have value := toNat_ofNat_ascii ascii
  have small : x.toNat < 0x80 := UInt8.lt_iff_toNat_lt.mp ascii
  have nonzero : 0 < x.toNat := UInt8.lt_iff_toNat_lt.mp positive
  induction h' : b.length using Nat.strongRecOn generalizing b with
  | ind size ih =>
    cases b with
    | nil => cases h
    | cons first rest =>
      rw [repaired_cons, List.mem_cons] at h
      rcases h with here | later
      · by_cases single : first < 0x80
        · rw [step, if_pos single, Option.getD_some] at here
          rw [here, toNat_ofNat_ascii single] at value
          exact List.mem_cons.mpr (.inl (UInt8.toNat_inj.mp value.symm))
        · cases read : (step first rest).1 with
          | none =>
            rw [here, read, Option.getD_none] at value
            have : (0xFFFD : Nat) = x.toNat := value
            omega
          | some c =>
            rw [here, read, Option.getD_some] at value
            rcases step_not_ascii single read with none | large <;> omega
      · have shorter := step_length first rest
        rw [List.length_cons] at h'
        have there := ih _ (by omega) later rfl
        exact List.mem_cons.mpr (.inr ((step_suffix first rest).subset there))

end Swarm.Text.Utf8
