import Swarm.Bencode.Encoder
import Swarm.Proofs.Bencode.Reading

/-!
# Written forms

The written form of a value apart from how it is read: the decimals in it are digits that spell their
number, its first byte tells the kind of the value and ends no container, and in a container the
written forms stand one after another.
-/

namespace Swarm.Bencode

/-! ## Decimals -/

/-- A digit as a character is a digit as a byte. -/
lemma isDigit_toUInt8 {c : Char} (h : c.isDigit = true) :
    Cursor.isDigit c.toUInt8 = true ∧ c.toUInt8.toNat = c.toNat := by
  simp only [Char.isDigit, Bool.and_eq_true, decide_eq_true_eq, UInt32.le_iff_toNat_le] at h
  have same : c.toUInt8.toNat = c.toNat := by
    have small : c.val.toNat < 256 := Nat.lt_of_le_of_lt h.2 (by decide)
    rw [Char.toUInt8, UInt32.toNat_toUInt8, Nat.mod_eq_of_lt small]
    rfl
  refine ⟨?_, same⟩
  rw [isDigit_iff, UInt8.le_iff_toNat_le, UInt8.le_iff_toNat_le, same]
  exact h

/-- A number in decimal consists of digits. -/
lemma isDigit_of_mem_decimal {n d} (h : d ∈ decimal n) : Cursor.isDigit d = true := by
  obtain ⟨c, hc, rfl⟩ := List.mem_map.mp h
  exact (isDigit_toUInt8 (Nat.isDigit_of_mem_toDigits (by decide) (by decide) hc)).1

/-- A number in decimal has a digit. -/
lemma decimal_ne_nil (n : Nat) : decimal n ≠ [] := by
  rw [decimal, Text.Numeral.decimal, ne_eq, List.map_eq_nil_iff]
  exact Nat.toDigits_ne_nil

/-- Reading the decimal of a number digit by digit counts up to it. -/
lemma digitsValue_decimal (n : Nat) : Cursor.digitsValue (decimal n) = n := by
  have digits : ∀ c ∈ Nat.toDigits 10 n, c.isDigit = true := fun c hc =>
    Nat.isDigit_of_mem_toDigits (by decide) (by decide) hc
  have count (cs : List Char) (hcs : ∀ c ∈ cs, c.isDigit = true) (k : Nat) :
      (cs.map Char.toUInt8).foldl (fun n d => n * 10 + (d.toNat - 48)) k =
        Nat.ofDigitChars 10 cs k := by
    induction cs generalizing k with
    | nil => rfl
    | cons c cs ih =>
      obtain ⟨hc, others⟩ := List.forall_mem_cons.mp hcs
      rw [List.map_cons, List.foldl_cons, (isDigit_toUInt8 hc).2, ih others, Nat.mul_comm]
      rfl
  rw [Cursor.digitsValue, decimal, Text.Numeral.decimal, count _ digits]
  exact Nat.ofDigitChars_toDigits (by decide) (by decide)

/-- A digit stands for less than ten. -/
lemma digit_lt {d : UInt8} (h : Cursor.isDigit d = true) : d.toNat - 0x30 < 10 := by
  have le := UInt8.le_iff_toNat_le.mp (isDigit_iff.mp h).2
  simp only [UInt8.reduceToNat] at le
  omega

/-- A digit is known from what it counts for. -/
lemma ofNat_digit {d : UInt8} (h : Cursor.isDigit d = true) :
    UInt8.ofNat (d.toNat - 0x30 + 0x30) = d := by
  have le := UInt8.le_iff_toNat_le.mp (isDigit_iff.mp h).1
  simp only [UInt8.reduceToNat] at le
  rw [Nat.sub_add_cancel le]
  exact UInt8.ofNat_toNat

section
variable {ds ds' : Bytes} {k : Nat}

/-- A number is spelled with digits. -/
lemma Number.isDigit (num : Number ds k) : ∀ d ∈ ds, Cursor.isDigit d = true :=
  fun d hd => isDigit_iff.mpr (num.digit d hd)

/-- The digits of a number stand for less than ten each. -/
lemma Number.digit_lt (num : Number ds k) : ∀ n ∈ ds.reverse.map fun d => d.toNat - 0x30, n < 10 :=
  List.forall_mem_map.mpr fun d hd => Bencode.digit_lt (num.isDigit d (List.mem_reverse.mp hd))

/-- A number is smaller than the power of ten that has one digit more. -/
lemma Number.lt_pow (num : Number ds k) : k < 10 ^ ds.length := by
  have lt := Nat.ofDigits_lt_base_pow_length (by decide) num.digit_lt
  rwa [num.value, List.length_map, List.length_reverse] at lt

/-- A number that can be spelled is small. -/
lemma Number.small (num : Number ds k) : k < 10 ^ 18 :=
  num.lt_pow.trans_le (Nat.pow_le_pow_right (by decide) num.short)

/-- Digits of the same number are the same if they are as many. -/
lemma Number.unique (num : Number ds k) (num' : Number ds' k) (len : ds.length = ds'.length) :
    ds = ds' := by
  have same := Nat.ofDigits_inj_of_len_eq (by decide) (by simpa using len) num.digit_lt
    num'.digit_lt (num.value.trans num'.value.symm)
  have back {ds : Bytes} (digits : ∀ d ∈ ds, Cursor.isDigit d = true) :
      (ds.reverse.map fun d => d.toNat - 0x30).map (fun n => UInt8.ofNat (n + 0x30)) =
        ds.reverse := by
    rw [List.map_map, List.map_congr_left, List.map_id]
    exact fun d hd => ofNat_digit (digits d (List.mem_reverse.mp hd))
  rw [← List.reverse_inj, ← back num.isDigit, same, back num'.isDigit]

/-- What the first digit of a number counts for. -/
lemma Number.head_le {d : UInt8} (num : Number (d :: ds) k) :
    10 ^ ds.length * (d.toNat - 0x30) ≤ k := by
  rw [← num.value, List.reverse_cons, List.map_append, Nat.ofDigits_append]
  simp

/-- Without a zero that leads them, digits spell the same number. -/
lemma Number.tail {d : UInt8} (num : Number ('0'.toUInt8 :: d :: ds) k) : Number (d :: ds) k where
  digit x hx := num.digit x (List.mem_cons_of_mem _ hx)
  nonempty := by simp
  short := Nat.le_of_succ_le num.short
  value := by
    rw [← num.value, @List.reverse_cons _ _ (d :: ds), List.map_append, Nat.ofDigits_append]
    exact (Nat.add_zero _).symm

end

/-- The decimal of a number has no more digits than the number needs. -/
lemma length_decimal_le_iff {n size : Nat} (positive : 0 < size) :
    (decimal n).length ≤ size ↔ n < 10 ^ size := by
  rw [decimal, List.length_map]
  exact Nat.length_toDigits_le_iff (by decide) positive

/-- The decimal of a number has few enough digits exactly below this bound. -/
lemma number_decimal {n : Nat} : Number (decimal n) n ↔ n < 10 ^ 18 := by
  constructor
  · exact Number.small
  · intro h
    have length : (decimal n).length ≤ 18 := (length_decimal_le_iff (by decide)).mpr h
    have num := Number.of_digits (fun _ => isDigit_of_mem_decimal) (decimal_ne_nil n) length
    rwa [digitsValue_decimal] at num

/-- A run of digits ends where the first other byte stands. -/
lemma digits_cut {ds ds' r r' : Bytes} {x y : UInt8} (hd : ∀ d ∈ ds, Cursor.isDigit d = true)
    (hd' : ∀ d ∈ ds', Cursor.isDigit d = true) (hx : Cursor.isDigit x = false)
    (hy : Cursor.isDigit y = false) (h : ds ++ x :: r = ds' ++ y :: r') :
    ds = ds' ∧ x = y ∧ r = r' := by
  have run := congrArg (List.takeWhile Cursor.isDigit) h
  simp only [List.takeWhile_append_of_pos hd, List.takeWhile_append_of_pos hd',
    List.takeWhile_cons, hx, hy, Bool.false_eq_true, if_false, List.append_nil] at run
  subst run
  simpa using h

/-- Where digits begin, nothing begins that is no digit. -/
lemma head_ne_of_digits {ds r : Bytes} {x : UInt8} (hd : ∀ d ∈ ds, Cursor.isDigit d = true)
    (nonempty : ds ≠ []) (hx : Cursor.isDigit x = false) (r' : Bytes) : ds ++ r ≠ x :: r' := by
  obtain ⟨d, ds, rfl⟩ := List.exists_cons_of_ne_nil nonempty
  intro h
  cases h
  rw [hd _ List.mem_cons_self] at hx
  cases hx

/-! ## Containers -/

/-- A key and then the written form of its value. -/
def encodeEntry (e : Bytes × Value) : Bytes := encodeString e.1 ++ encode e.2

/-- Items are encoded one after the other. -/
lemma encodeItems_eq (vs : List Value) : encodeItems vs = vs.flatMap encode := by
  induction vs with
  | nil => rfl
  | cons v vs ih => rw [encodeItems, ih, List.flatMap_cons]

/-- Entries are encoded one after the other. -/
lemma encodeEntries_eq (es : List (Bytes × Value)) : encodeEntries es = es.flatMap encodeEntry := by
  induction es with
  | nil => rfl
  | cons e es ih => rw [encodeEntries, ih, List.flatMap_cons, encodeEntry]

/-- The values of nodes are those of each. -/
lemma values_eq (ns : List Node) : Node.values ns = ns.map Node.value := by
  induction ns with
  | nil => rfl
  | cons n ns ih => rw [Node.values, ih, List.map_cons]

/-- The values of entries are those of each, under the same keys. -/
lemma entryValues_eq (es : List (Bytes × Node)) :
    Node.entryValues es = es.map fun e => (e.1, e.2.value) := by
  induction es with
  | nil => rfl
  | cons e es ih => rw [Node.entryValues, ih, List.map_cons]

/-! ## First bytes -/

/-- The encoding of a string begins with a digit. -/
lemma encodeString_head (b : Bytes) :
    ∃ d later, encodeString b = d :: later ∧ Cursor.isDigit d = true := by
  obtain ⟨d, ds, eq⟩ := List.exists_cons_of_ne_nil (decimal_ne_nil b.length)
  refine ⟨d, ds ++ ':'.toUInt8 :: b, by rw [encodeString, eq, List.cons_append], ?_⟩
  exact isDigit_of_mem_decimal (n := b.length) (by rw [eq]; exact List.mem_cons_self)

/-- A digit ends nothing. -/
lemma ne_end_of_isDigit {d : UInt8} (h : Cursor.isDigit d = true) : d ≠ 'e'.toUInt8 := by
  rintro rfl
  cases h

/-- A written form begins with a byte other than the one that ends a container. -/
lemma encode_head (v : Value) : ∃ x later, encode v = x :: later ∧ x ≠ 'e'.toUInt8 := by
  cases v with
  | bytes b =>
    obtain ⟨d, later, eq, digit⟩ := encodeString_head b
    exact ⟨d, later, eq, ne_end_of_isDigit digit⟩
  | _ => exact ⟨_, _, rfl, by decide⟩

/-- The encoding of an entry does not begin like an end. -/
lemma encodeEntry_head (e : Bytes × Value) :
    ∃ x later, encodeEntry e = x :: later ∧ x ≠ 'e'.toUInt8 := by
  obtain ⟨d, later, eq, digit⟩ := encodeString_head e.1
  exact ⟨d, _, by rw [encodeEntry, eq, List.cons_append], ne_end_of_isDigit digit⟩

end Swarm.Bencode
