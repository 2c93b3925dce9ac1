import Mathlib.Algebra.Order.BigOperators.Group.List
import Swarm.Client.Run

/-!
# Amounts in words

A number of bytes is told exactly below 1024, and else with two decimal places in the largest unit
that it fills. What is told is off by half a hundredth of the unit at most, and beyond 2⁵³ bytes by
another 2⁻⁵³ of the number at most. A time in seconds is off by half a hundredth and 2⁻⁵⁰ of it at most.
-/

namespace Swarm.Client

open Swarm.Time (Duration)

/-- A text tells a number of bytes. -/
inductive TellsSize (n : Nat) : String → Prop where
  | exact :
    n < 1024 →
    TellsSize n s!"{n} B"
  | rounded {k unit h} :
    ["KiB", "MiB", "GiB", "TiB"][k]? = some unit →
    1024 ^ (k + 1) ≤ n →
    n < 1024 ^ (k + 2) ∨ unit = "TiB" →
    2 * h * 1024 ^ (k + 1) ≤ 200 * n + 1024 ^ (k + 1) + 200 * (n / 2 ^ 53) →
    200 * n ≤ 2 * h * 1024 ^ (k + 1) + 1024 ^ (k + 1) + 200 * (n / 2 ^ 53) →
    TellsSize n s!"{h / 100}.{h % 100 / 10}{h % 10} {unit}"

/-! ## Rounding -/

/-- Rounding a quotient changes it by a half at most. -/
lemma nearest_close (n : Nat) {d : Nat} (pos : 0 < d) :
    2 * (nearest n d * d) ≤ 2 * n + d ∧ 2 * n ≤ 2 * (nearest n d * d) + d := by
  have parts : n / d * d + n % d = n := Nat.div_add_mod' n d
  have less : n % d < d := Nat.mod_lt n pos
  rw [nearest]
  split
  · omega
  · rw [Nat.add_mul, Nat.one_mul]
    omega

/-- A whole number is its own rounding. -/
lemma nearest_one (n : Nat) : nearest n 1 = n := by
  simp [nearest, Nat.mod_one]

/-- A number of at most 53 bits stays as it is. -/
lemma significant_small {n : Nat} (small : n < 2 ^ 53) : significant 53 n 1 = n := by
  have bits : n.log2 + 1 - 53 = 0 := by
    have short : n.log2 < 53 := by
      by_cases zero : n = 0
      · rw [zero]
        decide
      · exact (Nat.log2_lt zero).mpr small
    omega
  rw [significant, Nat.div_one, bits, Nat.shiftLeft_zero, Nat.mul_one, Nat.mul_one, nearest_one]

/-- Rounding a large quotient to 53 significant bits changes it by 2⁻⁵³ of it at most. -/
lemma significant_quotient {n d : Nat} (pos : 0 < d) (large : 2 ^ 52 ≤ n / d) :
    2 ^ 53 * (significant 53 n d * d) ≤ 2 ^ 53 * n + n ∧
      2 ^ 53 * n ≤ 2 ^ 53 * (significant 53 n d * d) + n := by
  have nonzero : n / d ≠ 0 := by omega
  have long : 52 ≤ (n / d).log2 := (Nat.le_log2 nonzero).mpr large
  obtain ⟨extra, bits⟩ := Nat.exists_eq_add_of_le long
  have step : 1 <<< ((n / d).log2 + 1 - 53) = 2 ^ extra := by
    rw [Nat.one_shiftLeft, bits]
    congr 1
    omega
  have filled : 2 ^ 52 * (d * 2 ^ extra) ≤ n :=
    calc 2 ^ 52 * (d * 2 ^ extra)
      _ = 2 ^ (n / d).log2 * d := by rw [bits, Nat.pow_add, Nat.mul_comm d, Nat.mul_assoc]
      _ ≤ n / d * d := Nat.mul_le_mul_right d (Nat.log2_self_le nonzero)
      _ ≤ n := Nat.div_mul_le_self n d
  have close := nearest_close n (Nat.mul_pos pos (Nat.two_pow_pos extra))
  have same : significant 53 n d * d = nearest n (d * 2 ^ extra) * (d * 2 ^ extra) := by
    rw [significant, step, Nat.mul_assoc, Nat.mul_comm d]
  rw [same]
  omega

/-- Rounding to 53 significant bits changes a number by 2⁻⁵³ of it at most. -/
lemma significant_close (n : Nat) :
    significant 53 n 1 ≤ n + n / 2 ^ 53 ∧ n ≤ significant 53 n 1 + n / 2 ^ 53 := by
  rcases Nat.lt_or_ge n (2 ^ 53) with small | large
  · rw [significant_small small]
    omega
  · have close := @significant_quotient n 1 Nat.one_pos (by rw [Nat.div_one]; omega)
    omega

/-! ## Units -/

/-- The unit is the given one, or one from the list whose size the number reaches; the next unit is
too large or there is none. -/
lemma unitFrom_cases (n : Nat) (name : String) (size : Nat) (larger : List String) :
    (unitFrom n name size larger = (name, size) ∧ (n < size * 1024 ∨ larger = [])) ∨
    ∃ k unit, larger[k]? = some unit ∧
      unitFrom n name size larger = (unit, size * 1024 ^ (k + 1)) ∧
      size * 1024 ^ (k + 1) ≤ n ∧ (n < size * 1024 ^ (k + 2) ∨ k + 1 = larger.length) := by
  induction larger generalizing name size with
  | nil => exact .inl ⟨rfl, .inr rfl⟩
  | cons next rest ih =>
    rw [unitFrom]
    split
    case isFalse short => exact .inl ⟨rfl, .inl (Nat.not_le.mp short)⟩
    case isTrue reached =>
      have shift (i : Nat) : size * 1024 * 1024 ^ i = size * 1024 ^ (i + 1) := by
        rw [Nat.mul_assoc, ← Nat.pow_succ']
      refine .inr ?_
      rcases ih next (size * 1024) with ⟨eq, bound⟩ | ⟨k, unit, listed, eq, filled, bound⟩
      · refine ⟨0, next, rfl, by rw [eq, Nat.pow_one], by rwa [Nat.pow_one], ?_⟩
        rw [← shift, Nat.pow_one]
        exact bound.imp_right (fun last => by rw [last]; rfl)
      · rw [shift] at eq filled bound
        exact ⟨k + 1, unit, listed, eq, filled, bound.imp_right (congrArg (· + 1))⟩

/-- Hundredths with a point and a unit. -/
lemma hundredths_unit (h : Nat) (unit : String) :
    s!"{hundredths h} {unit}" = s!"{h / 100}.{h % 100 / 10}{h % 10} {unit}" := by
  simp only [hundredths, toString, String.append_assoc]

/-- A number of bytes in words tells it. -/
lemma tellsSize_sizeText (n : Nat) : TellsSize n (sizeText n) := by
  have close := significant_close n
  have same : n < 2 ^ 53 → significant 53 n 1 = n := significant_small
  rw [sizeText]
  dsimp only
  generalize significant 53 n 1 = shown at close same
  rcases unitFrom_cases shown "B" 1 units with
    ⟨eq, below | none⟩ | ⟨k, unit, listed, eq, filled, bound⟩
  · rw [eq, if_pos rfl]
    exact .exact (by omega)
  · cases none
  · have several : 1 < 1024 ^ (k + 1) := Nat.one_lt_pow (Nat.succ_ne_zero k) (by decide)
    simp only [Nat.one_mul] at eq filled bound
    rw [eq]
    dsimp only
    rw [if_neg (Nat.ne_of_gt several), hundredths_unit]
    have rounding := nearest_close (shown * 100) (Nat.lt_trans Nat.one_pos several)
    have within : k < 4 := (List.getElem?_eq_some_iff.mp listed).1
    have limit : 1024 ^ (k + 1) ≤ 1024 ^ 4 := Nat.pow_le_pow_right (by decide) within
    refine .rounded listed ?_ ?_ ?_ ?_
    · rcases Nat.lt_or_ge n (2 ^ 53) with small | large
      · exact same small ▸ filled
      · omega
    · by_cases last : k = 3
      · subst last
        exact .inr (Option.some.inj listed).symm
      · have next : 1024 ^ (k + 2) ≤ 1024 ^ 4 := Nat.pow_le_pow_right (by decide) (by omega)
        rcases bound with below | every
        · exact .inl (by omega)
        · exact absurd (Nat.succ.inj every) last
    · rw [Nat.mul_assoc]
      omega
    · rw [Nat.mul_assoc]
      omega

example : sizeText 1023 = "1023 B" := by decide +kernel

example : sizeText (2 ^ 60) = "1048576.00 TiB" := by decide +kernel

/-! ## Times -/

/-- A text tells a number of nanoseconds in seconds. -/
inductive TellsTime (nanos : Nat) : String → Prop where
  | rounded {h} :
    2 * h * 10 ^ 9 ≤ 200 * nanos + 10 ^ 9 + nanos / 2 ^ 43 →
    200 * nanos ≤ 2 * h * 10 ^ 9 + 10 ^ 9 + nanos / 2 ^ 43 →
    TellsTime nanos s!"{h / 100}.{h % 100 / 10}{h % 10}"

/-- The grains of a duration are off by three times 2⁻⁵³ of it at most. -/
lemma grains_close (d : Duration) :
    2 ^ 53 * (grains d * 10 ^ 9) ≤ 2 ^ 53 * (d.nanos * grain) + 3 * (d.nanos * grain) ∧
      2 ^ 53 * (d.nanos * grain) ≤ 2 ^ 53 * (grains d * 10 ^ 9) + 3 * (d.nanos * grain) := by
  have size : grain = 2 ^ 82 := by decide
  have parts : d.secs * 10 ^ 9 + d.subsec = d.nanos := Nat.div_add_mod' ..
  have whole := significant_close d.secs
  have rest : 2 ^ 53 * (significant 53 (d.subsec * grain) 1000000000 * 1000000000) ≤
        2 ^ 53 * (d.subsec * grain) + d.subsec * grain ∧
      2 ^ 53 * (d.subsec * grain) ≤
        2 ^ 53 * (significant 53 (d.subsec * grain) 1000000000 * 1000000000) + d.subsec * grain := by
    rcases Nat.eq_zero_or_pos d.subsec with none | some
    · rw [none, Nat.zero_mul]
      decide
    · refine significant_quotient (by decide) ?_
      rw [size]
      omega
  obtain ⟨above, below⟩ := significant_close
    (significant 53 d.secs 1 * grain + significant 53 (d.subsec * grain) 1000000000)
  have sum : grains d = significant 53 (significant 53 d.secs 1 * grain +
    significant 53 (d.subsec * grain) 1000000000) 1 := rfl
  rw [← sum] at above below
  rw [size] at rest above below ⊢
  constructor <;> omega

/-- A duration in seconds tells it. -/
lemma tellsTime_secondsText (d : Duration) : TellsTime d.nanos (secondsText d) := by
  have close := grains_close d
  have rounding := nearest_close (grains d * 100) (show 0 < grain by decide)
  have size : grain = 2 ^ 82 := by decide
  rw [secondsText]
  generalize nearest (grains d * 100) grain = h at rounding ⊢
  rw [size] at close rounding
  exact .rounded (by omega) (by omega)

end Swarm.Client
