import Swarm.Proofs.Text.Encoding

/-!
# Well-formed bytes

A character that is read from bytes is written as just these bytes: the bounds on the byte after the lead
byte leave one form for every character. So a byte string is read strictly as a text exactly if it is the
bytes of this text.
-/

namespace Swarm.Text.Utf8

variable {count bits v : Nat} {low high first y : UInt8} {rest left b : Bytes} {c : Char} {s : String}

/-! ## Bytes of characters -/

/-- A valid number is the number of its character. -/
lemma toNat_ofNat_valid (valid : v.isValidChar) : (Char.ofNat v).val.toNat = v := by
  rw [Char.ofNat, dif_pos valid]
  rfl

/-- A character of two bytes. -/
lemma encode_two (large : 0x7F < v) (small : v ≤ 0x7FF) :
    String.utf8EncodeChar (Char.ofNat v) =
      [UInt8.ofNat (v / 64 % 32 + 192), UInt8.ofNat (v % 64 + 128)] := by
  have value : (Char.ofNat v).val.toNat = v := toNat_ofNat_valid (.inl (by omega))
  rw [String.utf8EncodeChar, value, if_neg (Nat.not_le.mpr large), if_pos small]

/-- A character of three bytes. -/
lemma encode_three (large : 0x7FF < v) (small : v ≤ 0xFFFF) (scalar : v < 0xD800 ∨ 0xDFFF < v) :
    String.utf8EncodeChar (Char.ofNat v) =
      [UInt8.ofNat (v / 4096 % 16 + 224), UInt8.ofNat (v / 64 % 64 + 128),
        UInt8.ofNat (v % 64 + 128)] := by
  have valid : v.isValidChar := scalar.imp id fun high => ⟨high, by omega⟩
  rw [String.utf8EncodeChar, toNat_ofNat_valid valid, if_neg (by omega), if_neg (by omega),
    if_pos small]

/-- A character of four bytes. -/
lemma encode_four (large : 0xFFFF < v) (small : v ≤ 0x10FFFF) :
    String.utf8EncodeChar (Char.ofNat v) =
      [UInt8.ofNat (v / 262144 % 8 + 240), UInt8.ofNat (v / 4096 % 64 + 128),
        UInt8.ofNat (v / 64 % 64 + 128), UInt8.ofNat (v % 64 + 128)] := by
  have value : (Char.ofNat v).val.toNat = v := toNat_ofNat_valid (.inr ⟨by omega, by omega⟩)
  rw [String.utf8EncodeChar, value, if_neg (by omega), if_neg (by omega), if_neg (by omega)]

/-- A byte is made of its number. -/
lemma ofNat_eq {m : Nat} (h : m = y.toNat) : UInt8.ofNat m = y := by
  rw [h, UInt8.ofNat_toNat]

/-! ## Steps that read a character -/

/-- Where a character goes on, a byte within the bounds stands. -/
lemma following_eq_some (h : following (count + 1) low high bits b = (some c, left)) :
    ∃ y tail, b = y :: tail ∧ low.toNat ≤ y.toNat ∧ y.toNat ≤ high.toNat ∧
      following count 0x80 0xBF (bits * 64 + y.toNat % 64) tail = (some c, left) := by
  cases b with
  | nil => cases h
  | cons y tail =>
    rw [following] at h
    split at h
    case isTrue inside => exact ⟨y, tail, rfl, inside.1, inside.2, h⟩
    case isFalse => cases h

/-- What a lead byte fixes, by the number of bytes that follow. -/
lemma Lead.cases {lead : Lead} (h : Lead.ofByte? first = some lead) :
    (lead.follow = 1 ∧ 0xC2 ≤ first.toNat ∧ first.toNat < 0xE0 ∧ lead.bits = first.toNat - 0xC0 ∧
      lead.low.toNat = 0x80 ∧ lead.high.toNat = 0xBF) ∨
    (lead.follow = 2 ∧ 0xE0 ≤ first.toNat ∧ first.toNat < 0xF0 ∧ lead.bits = first.toNat - 0xE0 ∧
      0x80 ≤ lead.low.toNat ∧ lead.high.toNat ≤ 0xBF ∧
      (first.toNat = 0xE0 → 0xA0 ≤ lead.low.toNat) ∧
      (first.toNat = 0xED → lead.high.toNat ≤ 0x9F)) ∨
    (lead.follow = 3 ∧ 0xF0 ≤ first.toNat ∧ first.toNat ≤ 0xF4 ∧ lead.bits = first.toNat - 0xF0 ∧
      0x80 ≤ lead.low.toNat ∧ lead.high.toNat ≤ 0xBF ∧
      (first.toNat = 0xF0 → 0x90 ≤ lead.low.toNat) ∧
      (first.toNat = 0xF4 → lead.high.toNat ≤ 0x8F)) := by
  revert h
  fun_cases Lead.ofByte? first with
  | case1 | case9 =>
    intro h
    cases h
  | _ =>
    rintro ⟨⟩
    simp only [UInt8.reduceToNat, true_and, and_true]
    omega

/-- A character that is read is written as the bytes that it was read from. -/
lemma step_eq_some (h : step first rest = (some c, left)) :
    first :: rest = String.utf8EncodeChar c ++ left := by
  rw [step] at h
  split at h
  case isTrue ascii =>
    cases h
    rw [utf8EncodeChar_ofNat ascii]
    rfl
  case isFalse =>
    cases found : Lead.ofByte? first with
    | none =>
      rw [found] at h
      cases h
    | some lead =>
      rw [found] at h
      dsimp only at h
      rcases Lead.cases found with ⟨follow, facts⟩ | ⟨follow, facts⟩ | ⟨follow, facts⟩
      · rw [follow] at h
        obtain ⟨y, tail, rfl, above, below, h⟩ := following_eq_some h
        rw [following] at h
        cases h
        rw [encode_two (by omega) (by omega), ofNat_eq (y := first) (by omega),
          ofNat_eq (y := y) (by omega)]
        rfl
      · rw [follow] at h
        obtain ⟨y, tail, rfl, above, below, h⟩ := following_eq_some h
        obtain ⟨z, tail, rfl, above', below', h⟩ := following_eq_some h
        simp only [UInt8.reduceToNat] at above' below'
        rw [following] at h
        cases h
        rw [encode_three (by omega) (by omega) (by omega), ofNat_eq (y := first) (by omega),
          ofNat_eq (y := y) (by omega), ofNat_eq (y := z) (by omega)]
        rfl
      · rw [follow] at h
        obtain ⟨y, tail, rfl, above, below, h⟩ := following_eq_some h
        obtain ⟨z, tail, rfl, above', below', h⟩ := following_eq_some h
        obtain ⟨w, tail, rfl, above'', below'', h⟩ := following_eq_some h
        simp only [UInt8.reduceToNat] at above' below' above'' below''
        rw [following] at h
        cases h
        rw [encode_four (by omega) (by omega), ofNat_eq (y := first) (by omega),
          ofNat_eq (y := y) (by omega), ofNat_eq (y := z) (by omega), ofNat_eq (y := w) (by omega)]
        rfl

/-! ## Texts -/

/-- A byte string that is well-formed throughout is the bytes of its characters. -/
lemma eq_of_steps {cs : List Char} (h : steps b = cs.map some) :
    b = cs.flatMap String.utf8EncodeChar := by
  -- a step takes off more than one byte, so the induction is on the characters
  induction cs generalizing b with
  | nil =>
    cases b with
    | nil => rfl
    | cons first rest =>
      rw [steps_cons] at h
      cases h
  | cons c cs ih =>
    cases b with
    | nil => cases h
    | cons first rest =>
      rw [steps_cons, List.map_cons] at h
      obtain ⟨read, later⟩ := List.cons.inj h
      calc first :: rest
        _ = String.utf8EncodeChar c ++ (step first rest).2 := step_eq_some (Prod.ext read rfl)
        _ = (c :: cs).flatMap String.utf8EncodeChar := by rw [List.flatMap_cons, ← ih later]

/-- Byte strings that are read strictly are the bytes of texts. -/
theorem text?_eq_some : text? b = some s ↔ b = Bytes.ofText s := by
  constructor
  · intro h
    rw [text?] at h
    split at h
    case isFalse => cases h
    case isTrue all =>
      cases h
      have chars : steps b = ((steps b).filterMap id).map some := by
        rw [List.map_filterMap_some_eq_filter_map_isSome, List.map_id,
          List.filter_eq_self.mpr (List.all_eq_true.mp all)]
      rw [Bytes.ofText, String.toList_ofList]
      exact eq_of_steps chars
  · rintro rfl
    exact text?_ofText s

end Swarm.Text.Utf8
