import Mathlib.Tactic.MkIffOfInductiveProp
import Swarm.Proofs.Text.Repair

/-!
# Texts as bytes

The bytes of a text are read back as this text, with repair or without. A character takes one to four
bytes. The lead byte tells how many, and where it bounds the byte after it, that byte keeps to the
bounds: no form is overlong, and no character is a surrogate or beyond the last code point.
-/

namespace Swarm.Text.Utf8

variable {count bits m v : Nat} {low high : UInt8} {rest : Bytes}

/-- A small number is that of its byte. -/
lemma toNat_ofNat_small (small : m < 256) : (UInt8.ofNat m).toNat = m := by
  rw [UInt8.toNat_ofNat', Nat.mod_eq_of_lt small]

/-- A byte within the bounds adds its low six bits. -/
lemma following_cons (above : low.toNat ≤ m % 64 + 128) (below : m % 64 + 128 ≤ high.toNat) :
    following (count + 1) low high bits (UInt8.ofNat (m % 64 + 128) :: rest) =
      following count 0x80 0xBF (bits * 64 + m % 64) rest := by
  have value : (UInt8.ofNat (m % 64 + 128)).toNat = m % 64 + 128 := toNat_ofNat_small (by omega)
  have inside : low ≤ UInt8.ofNat (m % 64 + 128) ∧ UInt8.ofNat (m % 64 + 128) ≤ high := by
    rw [UInt8.le_iff_toNat_le, UInt8.le_iff_toNat_le, value]
    exact ⟨above, below⟩
  have digit : (m % 64 + 128) % 64 = m % 64 := by omega
  rw [following, if_pos inside, value, digit]

/-- A later byte has the bounds of all later bytes. -/
lemma following_later : following (count + 1) 0x80 0xBF bits (UInt8.ofNat (m % 64 + 128) :: rest) =
    following count 0x80 0xBF (bits * 64 + m % 64) rest := by
  apply following_cons
  · simp only [UInt8.reduceToNat]
    omega
  · simp only [UInt8.reduceToNat]
    omega

/-- The byte leads a character: it tells that one byte and `count` more follow, it carries these bits,
and a byte with the low six bits of `m` keeps to its bounds. -/
@[mk_iff]
structure Leads (n count bits m : Nat) (lead : Lead) : Prop where
  found : Lead.ofByte? (UInt8.ofNat n) = some lead
  follow : lead.follow = count + 1
  bits : lead.bits = bits
  above : lead.low.toNat ≤ m % 64 + 128
  below : m % 64 + 128 ≤ lead.high.toNat

/-- A lead and one byte after it are taken, and the bytes that are left follow. -/
lemma Leads.step {n : Nat} {lead : Lead} (h : Leads n count bits m lead) (large : 128 ≤ n)
    (small : n < 256) :
    step (UInt8.ofNat n) (UInt8.ofNat (m % 64 + 128) :: rest) =
      following count 0x80 0xBF (bits * 64 + m % 64) rest := by
  have multiple : ¬ UInt8.ofNat n < 0x80 := by
    rw [UInt8.lt_iff_toNat_lt, toNat_ofNat_small small]
    exact Nat.not_lt.mpr large
  rw [Utf8.step, if_neg multiple, h.found]
  dsimp only
  rw [h.follow, following_cons h.above h.below, h.bits]

/-! ## Lead bytes -/

/-- The first byte of a character of two is a lead. -/
lemma exists_leads_two (large : 0x7F < v) (small : v ≤ 0x7FF) :
    ∃ lead, Leads (v / 64 % 32 + 192) 0 (v / 64) v lead := by
  have value : (UInt8.ofNat (v / 64 % 32 + 192)).toNat = v / 64 + 192 := by
    rw [toNat_ofNat_small (by omega)]
    omega
  refine ⟨⟨1, 0x80, 0xBF, v / 64⟩, ?_, rfl, rfl, ?_, ?_⟩
  · rw [Lead.ofByte?, value, if_neg (by omega), if_pos (by omega), Nat.add_sub_cancel]
  · simp only [UInt8.reduceToNat]
    omega
  · simp only [UInt8.reduceToNat]
    omega

/-- With a lead byte of three, the bounds exclude overlong forms and surrogates. -/
lemma exists_leads_three (large : 0x7FF < v) (small : v ≤ 0xFFFF)
    (scalar : v < 0xD800 ∨ 0xDFFF < v) :
    ∃ lead, Leads (v / 4096 % 16 + 224) 1 (v / 4096) (v / 64) lead := by
  have value : (UInt8.ofNat (v / 4096 % 16 + 224)).toNat = v / 4096 + 224 := by
    rw [toNat_ofNat_small (by omega)]
    omega
  simp only [leads_iff]
  rw [Lead.ofByte?, value, if_neg (by omega), if_neg (by omega)]
  -- the first lead byte of three, the one before surrogates, and the others
  split_ifs
  iterate 3
    refine ⟨_, rfl, rfl, ?_, ?_, ?_⟩ <;> simp only [UInt8.reduceToNat] <;> omega
  all_goals omega

/-- With a lead byte of four, the bounds exclude overlong forms and what is no code point. -/
lemma exists_leads_four (large : 0xFFFF < v) (small : v ≤ 0x10FFFF) :
    ∃ lead, Leads (v / 262144 % 8 + 240) 2 (v / 262144) (v / 4096) lead := by
  have value : (UInt8.ofNat (v / 262144 % 8 + 240)).toNat = v / 262144 + 240 := by
    rw [toNat_ofNat_small (by omega)]
    omega
  simp only [leads_iff]
  rw [Lead.ofByte?, value, if_neg (by omega), if_neg (by omega), if_neg (by omega),
    if_neg (by omega), if_neg (by omega)]
  -- the first lead byte of four, those before the last one, and the last one
  split_ifs
  iterate 3
    refine ⟨_, rfl, rfl, ?_, ?_, ?_⟩ <;> simp only [UInt8.reduceToNat] <;> omega
  all_goals omega

/-! ## Characters and texts -/

/-- A character of one byte is that byte. -/
lemma utf8EncodeChar_ofNat {x : UInt8} (ascii : x < 0x80) :
    String.utf8EncodeChar (Char.ofNat x.toNat) = [x] := by
  have value : (Char.ofNat x.toNat).val.toNat = x.toNat := toNat_ofNat_ascii ascii
  have small : x.toNat ≤ 0x7F := Nat.le_of_lt_succ (UInt8.lt_iff_toNat_lt.mp ascii)
  rw [String.utf8EncodeChar, value, if_pos small, UInt8.ofNat_toNat]

/-- The bytes of a character are read as this character, whatever follows. -/
lemma steps_utf8EncodeChar (c : Char) (rest : Bytes) :
    steps (String.utf8EncodeChar c ++ rest) = some c :: steps rest := by
  have scalar : c.val.toNat < 0xD800 ∨ 0xDFFF < c.val.toNat ∧ c.val.toNat < 0x110000 := c.valid
  have same : Char.ofNat c.val.toNat = c := Char.ofNat_toNat c
  have done {first : UInt8} {more : Bytes} {k : Nat} (read : step first (more ++ rest) =
      following 0 0x80 0xBF k rest) (value : k = c.val.toNat) :
      steps (first :: more ++ rest) = some c :: steps rest := by
    rw [List.cons_append, steps_cons, read, following, value, same]
  fun_cases String.utf8EncodeChar c with
  | case1 v one =>
    have value : (UInt8.ofNat v).toNat = v := toNat_ofNat_small (by omega)
    have ascii : UInt8.ofNat v < 0x80 := by
      rw [UInt8.lt_iff_toNat_lt, value]
      exact Nat.lt_succ_of_le one
    have read : step (UInt8.ofNat v) rest = (some c, rest) := by
      rw [step, if_pos ascii, value, same]
    rw [List.singleton_append, steps_cons, read]
  | case2 v one two =>
    obtain ⟨lead, leads⟩ := exists_leads_two (Nat.lt_of_not_le one) two
    exact done (leads.step (by omega) (by omega)) (Nat.div_add_mod' v 64)
  | case3 v one two three =>
    obtain ⟨lead, leads⟩ := exists_leads_three (Nat.lt_of_not_le two) three (by omega)
    refine done ((leads.step (by omega) (by omega)).trans following_later) ?_
    omega
  | case4 v one two three =>
    obtain ⟨lead, leads⟩ := exists_leads_four (Nat.lt_of_not_le three) (by omega)
    refine done ((leads.step (by omega) (by omega)).trans
      (following_later.trans following_later)) ?_
    omega

/-- A text is read from its bytes character by character. -/
theorem steps_ofText (s : String) : steps (Bytes.ofText s) = s.toList.map some := by
  have run (cs : List Char) : steps (cs.flatMap String.utf8EncodeChar) = cs.map some := by
    induction cs with
    | nil => rfl
    | cons c cs ih => rw [List.flatMap_cons, steps_utf8EncodeChar, ih, List.map_cons]
  exact run s.toList

/-- A text is read back from its bytes. -/
theorem text?_ofText (s : String) : text? (Bytes.ofText s) = some s := by
  simp [text?, steps_ofText]

/-- The bytes of a text need no repair. -/
theorem lossy_ofText (s : String) : lossy (Bytes.ofText s) = s := by
  simp [lossy, repaired, steps_ofText, Function.comp_def]

end Swarm.Text.Utf8
