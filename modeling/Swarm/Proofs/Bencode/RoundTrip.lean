import Swarm.Proofs.Bencode.Acceptance
import Swarm.Proofs.Bencode.Writing

/-!
# Reading what was written

A value survives being written and read back exactly if it keeps to the limits of documents; one that
does not is refused, and never read as another value. In one direction the written form is derived in
the grammar. In the other, a document that stands where a written form stands ends with it, so the
numbers and the nesting in the written form are those of a document.
-/

namespace Swarm.Bencode

/-- The integers of a value, its byte strings and its keys are short enough for 18 digits, and so
many of its containers at most are nested in one another. -/
inductive Fits : (room : Nat) → Value → Prop where
  | integer {room n} :
    n.natAbs < 10 ^ 18 →
    Fits room (.integer n)
  | bytes {room b} :
    b.length < 10 ^ 18 →
    Fits room (.bytes b)
  | list {room vs} :
    (∀ v ∈ vs, Fits room v) →
    Fits (room + 1) (.list vs)
  | dict {room es} :
    (∀ e ∈ es, e.1.length < 10 ^ 18) →
    (∀ e ∈ es, Fits room e.2) →
    Fits (room + 1) (.dict es)

/-! ## Written forms are documents -/

/-- The encoding of a short enough string spells it. -/
lemma byteString_encodeString {b : Bytes} (h : b.length < 10 ^ 18) :
    ByteString (encodeString b) b :=
  .intro (number_decimal.mpr h)

/-- If every written form is spelled as something with its content, so are several in a row. -/
lemma exists_sequence {α β : Type} {spells : Nat → Nat → Bytes → α → Prop} {write : β → Bytes}
    {content : α → β} {room : Nat} {ws : List β}
    (h : ∀ w ∈ ws, ∀ pos, ∃ a, spells pos room (write w) a ∧ content a = w) (pos : Nat) :
    ∃ as, Sequence spells pos room (ws.flatMap write) as ∧ as.map content = ws := by
  induction ws generalizing pos with
  | nil => exact ⟨[], .nil, rfl⟩
  | cons w ws ih =>
    obtain ⟨first, others⟩ := List.forall_mem_cons.mp h
    obtain ⟨a, sp, rfl⟩ := first pos
    obtain ⟨as, sq, rfl⟩ := ih others (pos + (write (content a)).length)
    exact ⟨a :: as, .cons sp sq, rfl⟩

/-- The encoding of a small enough integer spells it. -/
lemma exists_integer {n : Int} (small : n.natAbs < 10 ^ 18) (pos room : Nat) :
    ∃ m, Document pos room (encodeInteger n) m ∧ m.value = .integer n := by
  have num := number_decimal.mpr small
  by_cases negative : n < 0
  · rw [encodeInteger, if_pos negative]
    refine ⟨_, .negative num, ?_⟩
    rw [Node.value]
    congr 1
    omega
  · rw [encodeInteger, if_neg negative]
    refine ⟨_, .positive num, ?_⟩
    rw [Node.value]
    congr 1
    omega

/-- The written form of a value that fits is a document of that value. -/
theorem Fits.document {room : Nat} {v : Value} (fits : Fits room v) (pos : Nat) :
    ∃ n, Document pos room (encode v) n ∧ n.value = v := by
  induction fits generalizing pos with
  | integer small => exact exists_integer small pos _
  | bytes short => exact ⟨_, .bytes (byteString_encodeString short), rfl⟩
  | @list room vs _ ih =>
    obtain ⟨ns, sq, rfl⟩ := exists_sequence ih (pos + 1)
    rw [encode, encodeItems_eq]
    exact ⟨_, .list sq, congrArg Value.list (values_eq ns)⟩
  | @dict room es short _ ih =>
    have entry : ∀ e ∈ es, ∀ pos, ∃ a, Entry Document pos room (encodeEntry e) a ∧
        (a.1, a.2.value) = e := by
      intro e he pos
      have key := byteString_encodeString (short e he)
      obtain ⟨n, doc, same⟩ := ih e he (pos + (encodeString e.1).length)
      exact ⟨(e.1, n), .intro key doc, by rw [same]⟩
    obtain ⟨as, sq, eq⟩ := exists_sequence entry (pos + 1)
    rw [encode, encodeEntries_eq]
    exact ⟨_, .dict sq, congrArg Value.dict ((entryValues_eq as).trans eq)⟩

/-! ## Documents that are written forms -/

section
variable {pos room : Nat} {b later rest rest' : Bytes} {n : Node}

/-- The spelling of a string begins with a digit. -/
lemma ByteString.digit_head {x : UInt8} {content : Bytes} (str : ByteString (x :: later) content) :
    0x30 ≤ x ∧ x ≤ 0x39 := by
  obtain ⟨d, tail, eq, digit⟩ := str.head
  cases eq
  exact digit

/-- A document that begins with an `i` is an integer, negative or not. -/
lemma Document.inv_integer (doc : Document pos room b n) (h : b = 'i'.toUInt8 :: later) :
    ∃ sign ds k, (sign = [] ∨ sign = ['-'.toUInt8]) ∧ Number ds k ∧
      later = sign ++ ds ++ ['e'.toUInt8] := by
  cases doc with
  | @positive _ _ ds k num =>
    cases h
    exact ⟨[], ds, k, .inl rfl, num, rfl⟩
  | @negative _ _ ds k num =>
    cases h
    exact ⟨['-'.toUInt8], ds, k, .inr rfl, num, rfl⟩
  | bytes str =>
    subst h
    exact absurd str.digit_head (by decide)
  | list => cases h
  | dict => cases h

/-- A document that begins with a digit is a string. -/
lemma Document.inv_bytes (doc : Document pos room b n) {d : UInt8} (h : b = d :: later)
    (digit : Cursor.isDigit d = true) : ∃ content, ByteString b content := by
  cases doc with
  | bytes str => exact ⟨_, str⟩
  | _ =>
    cases h
    cases digit

/-- A document that begins with an `l` is a list. -/
lemma Document.inv_list (doc : Document pos room b n) (h : b = 'l'.toUInt8 :: later) :
    ∃ inner c ns, room = inner + 1 ∧ Sequence Document (pos + 1) inner c ns ∧
      later = c ++ ['e'.toUInt8] := by
  cases doc with
  | @list _ inner c ns sq =>
    cases h
    exact ⟨inner, c, ns, rfl, sq, rfl⟩
  | bytes str =>
    subst h
    exact absurd str.digit_head (by decide)
  | positive => cases h
  | negative => cases h
  | dict => cases h

/-- A document that begins like a dictionary holds entries and an end. -/
lemma Document.inv_dict (doc : Document pos room b n) (h : b = 'd'.toUInt8 :: later) :
    ∃ inner c es, room = inner + 1 ∧ Sequence (Entry Document) (pos + 1) inner c es ∧
      later = c ++ ['e'.toUInt8] := by
  cases doc with
  | @dict _ inner c es sq =>
    cases h
    exact ⟨inner, c, es, rfl, sq, rfl⟩
  | bytes str =>
    subst h
    exact absurd str.digit_head (by decide)
  | positive => cases h
  | negative => cases h
  | list => cases h

/-- The written form of a byte string after which a byte string ends is that byte string. -/
lemma ByteString.of_written {content w : Bytes} (str : ByteString b content)
    (h : b ++ rest = encodeString w ++ rest') : w.length < 10 ^ 18 ∧ rest = rest' := by
  cases str with
  | @intro ds content num =>
    rw [encodeString, List.append_assoc, List.append_assoc, List.cons_append, List.cons_append] at h
    obtain ⟨rfl, -, tail⟩ := digits_cut num.isDigit (fun _ => isDigit_of_mem_decimal) (by decide)
      (by decide) h
    -- the two lengths have the same digits, so the contents end at the same place
    have same : content.length = w.length :=
      num.value.symm.trans ((digitsValue_eq _).symm.trans (digitsValue_decimal _))
    exact ⟨number_decimal.mp (same ▸ num), (List.append_inj tail same).2⟩

/-- The written form of an integer after which an integer ends is that integer. -/
lemma Document.of_written_integer {k : Int} (doc : Document pos room b n)
    (h : b ++ rest = encodeInteger k ++ rest') : k.natAbs < 10 ^ 18 ∧ rest = rest' := by
  obtain ⟨x, tail, rfl, -⟩ := doc.head
  rw [encodeInteger] at h
  obtain ⟨rfl, after⟩ := List.cons.inj h
  obtain ⟨sign, ds, m, signs, num, rfl⟩ := doc.inv_integer rfl
  simp only [List.append_eq, List.append_assoc] at after
  have nonempty : ds ≠ [] := List.length_pos_iff.mp num.nonempty
  have digits : ∀ d ∈ decimal k.natAbs, Cursor.isDigit d = true := fun _ => isDigit_of_mem_decimal
  have minus : Cursor.isDigit '-'.toUInt8 = false := rfl
  have cut : ds ++ 'e'.toUInt8 :: rest = decimal k.natAbs ++ 'e'.toUInt8 :: rest' := by
    -- a sign is no digit, so it stands in both or in neither
    rcases signs with rfl | rfl
    · by_cases negative : k < 0
      · rw [if_pos negative] at after
        exact absurd after (head_ne_of_digits num.isDigit nonempty minus _)
      · rwa [if_neg negative] at after
    · by_cases negative : k < 0
      · simpa [if_pos negative] using after
      · rw [if_neg negative] at after
        exact absurd after.symm (head_ne_of_digits digits (decimal_ne_nil _) minus _)
  obtain ⟨rfl, -, eq⟩ := digits_cut num.isDigit digits (by decide) (by decide) cut
  have same : m = k.natAbs :=
    num.value.symm.trans ((digitsValue_eq _).symm.trans (digitsValue_decimal _))
  exact ⟨number_decimal.mp (same ▸ num), eq⟩

/-- An entry that is written ends where its spelling does, and its key and value fit. -/
lemma Entry.of_written {spells : Nat → Nat → Bytes → Node → Prop} {good : Value → Prop}
    {e : Bytes × Node} {w : Bytes × Value}
    (value : ∀ {pos b n v rest rest'}, spells pos room b n → b ++ rest = encode v ++ rest' →
      good v ∧ rest = rest')
    (entry : Entry spells pos room b e) (h : b ++ rest = encodeEntry w ++ rest') :
    (w.1.length < 10 ^ 18 ∧ good w.2) ∧ rest = rest' := by
  obtain ⟨str, sp⟩ := entry
  rw [encodeEntry, List.append_assoc, List.append_assoc] at h
  obtain ⟨short, h⟩ := str.of_written h
  obtain ⟨fine, eq⟩ := value sp h
  exact ⟨⟨short, fine⟩, eq⟩

/-- If what is spelled where a written form stands ends with it, so do several in a row. -/
lemma Sequence.of_written {α β : Type} {spells : Nat → Nat → Bytes → α → Prop}
    {write : β → Bytes} {good : β → Prop} {as : List α} {ws : List β}
    (begins : Begins (spells · room))
    (writes : ∀ w, ∃ x later, write w = x :: later ∧ x ≠ 'e'.toUInt8)
    (element : ∀ {pos b a w rest rest'}, spells pos room b a → b ++ rest = write w ++ rest' →
      good w ∧ rest = rest')
    (sq : Sequence spells pos room b as)
    (h : b ++ 'e'.toUInt8 :: rest = ws.flatMap write ++ 'e'.toUInt8 :: rest') :
    (∀ w ∈ ws, good w) ∧ rest = rest' := by
  induction ws generalizing pos b as with
  | nil =>
    cases sq with
    | nil => exact ⟨by simp, (List.cons.inj h).2⟩
    | cons sp _ =>
      -- no element begins like the end
      obtain ⟨x, later, rfl, ne⟩ := begins sp
      exact absurd (List.cons.inj h).1 ne
  | cons w ws ih =>
    cases sq with
    | nil =>
      obtain ⟨x, later, eq, ne⟩ := writes w
      rw [List.flatMap_cons, eq] at h
      exact absurd (List.cons.inj h).1.symm ne
    | cons sp sq =>
      rw [List.flatMap_cons, List.append_assoc, List.append_assoc] at h
      obtain ⟨first, h⟩ := element sp h
      obtain ⟨others, eq⟩ := ih sq h
      exact ⟨List.forall_mem_cons.mpr ⟨first, others⟩, eq⟩

/-- A document that stands where a written form stands ends with it, and the value fits. -/
theorem Document.of_written {v : Value} (doc : Document pos room b n)
    (h : b ++ rest = encode v ++ rest') : Fits room v ∧ rest = rest' := by
  -- containers take room, so the induction is on it and not on the value
  induction room using Nat.strong_induction_on generalizing pos b n v rest rest' with
  | _ room ih =>
    cases v with
    | integer k =>
      obtain ⟨small, eq⟩ := doc.of_written_integer h
      exact ⟨.integer small, eq⟩
    | bytes w =>
      obtain ⟨d, later, head, digit⟩ := encodeString_head w
      obtain ⟨x, tail, rfl, -⟩ := doc.head
      rw [encode, head] at h
      obtain ⟨rfl, h'⟩ := List.cons.inj h
      obtain ⟨content, str⟩ := doc.inv_bytes rfl digit
      rw [← head] at h
      obtain ⟨short, eq⟩ := str.of_written h
      exact ⟨.bytes short, eq⟩
    | list vs =>
      obtain ⟨x, tail, rfl, -⟩ := doc.head
      rw [encode, encodeItems_eq] at h
      obtain ⟨rfl, items⟩ := List.cons.inj h
      obtain ⟨inner, c, ns, rfl, sq, rfl⟩ := doc.inv_list rfl
      simp only [List.append_eq, List.append_assoc] at items
      obtain ⟨fits, eq⟩ := sq.of_written (begins_document inner) encode_head
        (fun doc h => ih inner (Nat.lt_succ_self inner) doc h) items
      exact ⟨.list fits, eq⟩
    | dict es =>
      obtain ⟨x, tail, rfl, -⟩ := doc.head
      rw [encode, encodeEntries_eq] at h
      obtain ⟨rfl, entries⟩ := List.cons.inj h
      obtain ⟨inner, c, as, rfl, sq, rfl⟩ := doc.inv_dict rfl
      simp only [List.append_eq, List.append_assoc] at entries
      obtain ⟨fits, eq⟩ := sq.of_written (begins_entry inner) encodeEntry_head
        (fun entry h => entry.of_written (fun doc h => ih inner (Nat.lt_succ_self inner) doc h) h)
        entries
      exact ⟨.dict (fun e he => (fits e he).1) (fun e he => (fits e he).2), eq⟩

end

/-- A value that fits is read back, with a node that covers all that was written. -/
lemma Fits.decodeExact {v : Value} (fits : Fits 64 v) :
    ∃ n, decodeExact (encode v) = .ok n ∧ n.value = v ∧ n.span.stop = (encode v).length := by
  obtain ⟨n, doc, same⟩ := fits.document 0
  refine ⟨n, doc.decodeExact, same, ?_⟩
  rw [doc.span_eq, Nat.zero_add]

/-- A value whose encoding is read back fits. -/
lemma fits_of_decodeExact {v : Value} {n : Node} (h : decodeExact (encode v) = .ok n) :
    Fits 64 v :=
  ((document_of_decodeExact h).of_written (rfl : encode v ++ [] = encode v ++ [])).1

/-- The encoding of a value that does not fit is refused. -/
lemma exists_error_of_not_fits {v : Value} (large : ¬ Fits 64 v) :
    ∃ e, decodeExact (encode v) = .error e := by
  cases h : decodeExact (encode v) with
  | error e => exact ⟨e, rfl⟩
  | ok n => exact absurd (fits_of_decodeExact h) large

/-- Writing a value and reading it back gives the value, with a node that covers all that was written,
exactly if the value fits the limits. A value that does not fit is refused. -/
theorem decodeExact_encode (v : Value) :
    ((∃ n, decodeExact (encode v) = .ok n ∧ n.value = v ∧ n.span.stop = (encode v).length) ↔
      Fits 64 v) ∧
    (¬ Fits 64 v → ∃ e, decodeExact (encode v) = .error e) := by
  refine ⟨⟨?_, Fits.decodeExact⟩, exists_error_of_not_fits⟩
  rintro ⟨n, h, -⟩
  exact fits_of_decodeExact h

end Swarm.Bencode
