import Swarm.Proofs.Bencode.RoundTrip
import Swarm.Proofs.Bencode.Stretches

/-!
# Writing again what was read

A document that was read and is written again has the same value and is never longer. It is the same
document exactly if no numeral in it, at any depth, is longer than it must be: no zero leads other
digits, and no zero is negative. For a single part this is seen from its digits. For parts in a row it
follows because none of them grows, so that none makes up for another.
-/

namespace Swarm.Bencode

/-- A zero stands before other digits. -/
inductive LeadingZero : Bytes → Prop where
  | intro {d ds} :
    LeadingZero ('0'.toUInt8 :: d :: ds)

/-- The numeral is longer than it must be: a zero leads its digits, or it is a negative zero. -/
inductive Redundant : Bytes → Prop where
  | unsigned {ds} :
    LeadingZero ds →
    Redundant ds
  | signed {ds} :
    LeadingZero ds →
    Redundant ('-'.toUInt8 :: ds)
  | negativeZero :
    Redundant ['-'.toUInt8, '0'.toUInt8]

/-- The digits in a source from an offset on. -/
def digitsAt (source : Bytes) (pos : Nat) : Bytes := (source.drop pos).takeWhile Cursor.isDigit

/-- Where the keys of entries begin: each at the end of the entry before it. -/
def keyStarts (pos : Nat) : List (Bytes × Node) → List Nat
  | [] => []
  | (_, n) :: es => pos :: keyStarts n.span.stop es

/-- The numerals that are written for a node itself: what stands between the `i` and the `e` of an
integer, the length of a byte string, and the lengths of the keys of a dictionary. -/
def Node.numerals (source : Bytes) : Node → List Bytes
  | .integer s _ => [(source.drop (s.start + 1)).take (s.stop - s.start - 2)]
  | .bytes s _ => [digitsAt source s.start]
  | .list _ _ => []
  | .dict s entries => (keyStarts (s.start + 1) entries).map (digitsAt source)

/-- No numeral that is written for the node, or for one in it at any depth, is redundant. -/
def Plain (source : Bytes) (n : Node) : Prop :=
  ∀ m, Occurs m n → ∀ w ∈ m.numerals source, ¬ Redundant w

/-- Bytes are written again as bytes that are no longer, and as the same exactly in one case. -/
structure Rewrites (b w : Bytes) (same : Prop) : Prop where
  le : w.length ≤ b.length
  eq_iff : w = b ↔ same

/-! ## Numerals -/

section
variable {ds : Bytes} {k : Nat}

/-- No digits spell a number in a shorter way than its decimal. -/
lemma Number.length_decimal_le (num : Number ds k) : (decimal k).length ≤ ds.length :=
  (length_decimal_le_iff num.nonempty).mpr num.lt_pow

/-- Digits are the decimal of their number unless a zero leads them. -/
theorem Number.decimal_eq_iff (num : Number ds k) : decimal k = ds ↔ ¬ LeadingZero ds := by
  constructor
  · rintro eq ⟨d, ds⟩
    have shorter := num.tail.length_decimal_le
    rw [eq] at shorter
    simp at shorter
  · intro plain
    refine (number_decimal.mpr num.small).unique num (Nat.le_antisymm num.length_decimal_le ?_)
    cases ds with
    | nil => exact Nat.zero_le _
    | cons d ds =>
      cases ds with
      | nil => exact List.length_pos_iff.mpr (decimal_ne_nil k)
      | cons d' ds =>
        have first : d.toNat - 0x30 ≠ 0 := by
          intro zero
          have eq := ofNat_digit (num.isDigit d List.mem_cons_self)
          rw [zero] at eq
          exact plain (eq ▸ .intro)
        -- with another first digit than zero, the number is too large for fewer digits
        by_contra shorter
        have small : k < 10 ^ (d' :: ds).length :=
          (length_decimal_le_iff (by simp)).mp (Nat.le_of_lt_succ (Nat.lt_of_not_le shorter))
        exact absurd (num.head_le.trans_lt small)
          (Nat.not_lt.mpr (Nat.le_mul_of_pos_right _ (Nat.pos_of_ne_zero first)))

/-- A number in decimal replaces its digits, and is the same exactly if they have no needless zeros. -/
lemma Number.rewrites (num : Number ds k) : Rewrites ds (decimal k) (¬ Redundant ds) where
  le := num.length_decimal_le
  eq_iff := by
    refine num.decimal_eq_iff.trans (not_congr ⟨.unsigned, fun h => ?_⟩)
    cases h with
    | unsigned zero => exact zero
    | signed | negativeZero => cases num.isDigit _ List.mem_cons_self

/-- After a minus sign a zero is redundant on its own. -/
lemma Number.redundant_signed_iff (num : Number ds k) :
    Redundant ('-'.toUInt8 :: ds) ↔ k = 0 ∨ LeadingZero ds := by
  constructor
  · rintro (⟨⟨⟩⟩ | zero | _)
    · exact .inr zero
    · exact .inl num.value.symm
  · rintro (rfl | zero)
    · by_cases zero : LeadingZero ds
      · exact .signed zero
      · have eq : decimal 0 = ds := num.decimal_eq_iff.mpr zero
        rw [← eq]
        exact .negativeZero
    · exact .signed zero

end

/-! ## Parts in a row -/

section
variable {b b' w w' : Bytes} {p p' : Prop}

/-- Anything replaces itself. -/
lemma Rewrites.refl (b : Bytes) : Rewrites b b True := ⟨Nat.le_refl _, iff_of_true rfl trivial⟩

/-- The condition under which both are the same can be put in other words. -/
lemma Rewrites.congr (h : Rewrites b w p) (iff : p ↔ p') : Rewrites b w p' :=
  ⟨h.le, h.eq_iff.trans iff⟩

/-- Parts in a row are written as the same bytes only if each of them is. -/
lemma Rewrites.append (h : Rewrites b w p) (h' : Rewrites b' w' p') :
    Rewrites (b ++ b') (w ++ w') (p ∧ p') where
  le := by
    simp only [List.length_append]
    exact Nat.add_le_add h.le h'.le
  eq_iff := by
    rw [← h.eq_iff, ← h'.eq_iff]
    constructor
    · intro eq
      have total := congrArg List.length eq
      simp only [List.length_append] at total
      have first : w.length = b.length := by
        have le := h.le
        have le' := h'.le
        omega
      exact List.append_inj eq first
    · rintro ⟨rfl, rfl⟩
      rfl

/-- Both sides may begin with the same byte. -/
lemma Rewrites.cons (x : UInt8) (h : Rewrites b w p) : Rewrites (x :: b) (x :: w) p :=
  ((Rewrites.refl [x]).append h).congr (iff_of_eq (true_and p))

/-- Both sides may end with the same byte. -/
lemma Rewrites.concat (h : Rewrites b w p) (x : UInt8) : Rewrites (b ++ [x]) (w ++ [x]) p :=
  (h.append (.refl [x])).congr (iff_of_eq (and_true p))

/-- A number from zero on is encoded without a sign. -/
lemma encodeInteger_natCast (k : Nat) :
    encodeInteger k = 'i'.toUInt8 :: decimal k ++ ['e'.toUInt8] := by
  rw [encodeInteger, if_neg (Int.not_lt.mpr (Int.natCast_nonneg k))]
  rfl

/-- A number below zero is encoded with a sign. -/
lemma encodeInteger_neg {k : Nat} (positive : 0 < k) :
    encodeInteger (-k) = 'i'.toUInt8 :: '-'.toUInt8 :: decimal k ++ ['e'.toUInt8] := by
  rw [encodeInteger, if_pos (by omega), Int.natAbs_neg, Int.natAbs_natCast]
  rfl

/-- A number behind a minus sign is written with the sign, unless it is zero. -/
lemma Number.rewrites_signed {ds : Bytes} {k : Nat} (num : Number ds k) :
    Rewrites ('i'.toUInt8 :: '-'.toUInt8 :: ds ++ ['e'.toUInt8]) (encodeInteger (-k))
      (¬ Redundant ('-'.toUInt8 :: ds)) := by
  have digits : Rewrites ds (decimal k) (¬ LeadingZero ds) := ⟨num.length_decimal_le, num.decimal_eq_iff⟩
  rw [num.redundant_signed_iff]
  cases k with
  | zero =>
    have shorter : (decimal 0).length < ('-'.toUInt8 :: ds).length := Nat.lt_succ_of_le digits.le
    have unsigned : Rewrites ('-'.toUInt8 :: ds) (decimal 0) (¬ (0 = 0 ∨ LeadingZero ds)) :=
      ⟨shorter.le, iff_of_false (ne_of_apply_ne List.length shorter.ne) (by simp)⟩
    exact (unsigned.cons _).concat _
  | succ k =>
    rw [encodeInteger_neg (Nat.succ_pos k)]
    exact (((digits.cons _).cons _).concat _).congr (by simp)

end

/-! ## Parts of a source -/

/-- The bytes stand in the source at this offset. -/
def StandsAt (source : Bytes) (pos : Nat) (b : Bytes) : Prop := b <+: source.drop pos

section
variable {source b c : Bytes} {pos room : Nat}

/-- Where bytes stand, the first part of them does. -/
lemma StandsAt.left (h : StandsAt source pos (b ++ c)) : StandsAt source pos b :=
  (List.prefix_append b c).trans h

/-- Where bytes stand, the second part of them stands after the first. -/
lemma StandsAt.right (h : StandsAt source pos (b ++ c)) : StandsAt source (pos + b.length) c := by
  obtain ⟨more, eq⟩ := h
  refine ⟨more, ?_⟩
  rw [← List.drop_drop, ← eq, List.append_assoc, List.drop_left]

/-- Where bytes stand, all but the first stand one place later. -/
lemma StandsAt.tail {x : UInt8} (h : StandsAt source pos (x :: b)) : StandsAt source (pos + 1) b :=
  @StandsAt.right _ [x] _ _ h

/-- Bytes can be taken from where they stand. -/
lemma StandsAt.take (h : StandsAt source pos b) : (source.drop pos).take b.length = b :=
  (List.prefix_iff_eq_take.mp h).symm

/-- The digits of a number end at the colon behind them. -/
lemma StandsAt.digitsAt {ds : Bytes} {k : Nat} (h : StandsAt source pos (ds ++ ':'.toUInt8 :: b))
    (num : Number ds k) : digitsAt source pos = ds := by
  obtain ⟨more, eq⟩ := h
  have colon : Cursor.isDigit ':'.toUInt8 = false := rfl
  rw [Bencode.digitsAt, ← eq, List.append_assoc, List.takeWhile_append_of_pos num.isDigit,
    List.cons_append, List.takeWhile_cons, colon]
  simp

/-- The encoding of a string is the same exactly if its length has no needless zeros. -/
lemma ByteString.rewrites {content : Bytes} (str : ByteString b content)
    (h : StandsAt source pos b) :
    Rewrites b (encodeString content) (¬ Redundant (digitsAt source pos)) := by
  cases str with
  | intro num =>
    rw [h.digitsAt num]
    exact (num.rewrites.append (.refl _)).congr (iff_of_eq (and_true _))

/-- If an element is written as the same bytes exactly if it is plain, so are several in a row. -/
lemma Sequence.rewrites {α : Type} {spells : Nat → Nat → Bytes → α → Prop} {write : α → Bytes}
    {as : List α} (first : Nat → α → Prop) (all : Nat → List α → Prop) (nil : ∀ pos, all pos [])
    (cons : ∀ {pos c a as}, spells pos room c a →
      (first pos a ∧ all (pos + c.length) as ↔ all pos (a :: as)))
    (element : ∀ {pos c a}, StandsAt source pos c → spells pos room c a →
      Rewrites c (write a) (first pos a))
    (sq : Sequence spells pos room b as) (h : StandsAt source pos b) :
    Rewrites b (as.flatMap write) (all pos as) := by
  induction sq with
  | nil => exact (Rewrites.refl []).congr (iff_of_true trivial (nil _))
  | cons sp _ ih =>
    rw [List.flatMap_cons]
    exact ((element h.left sp).append (ih cons element h.right)).congr (cons sp)

/-! ## Documents -/

/-- An integer is plain if its digits have no needless zeros. -/
lemma plain_integer_iff {s : Span} {k : Int} : Plain source (.integer s k) ↔
    ¬ Redundant ((source.drop (s.start + 1)).take (s.stop - s.start - 2)) := by
  constructor
  · exact fun plain => plain _ .self _ List.mem_cons_self
  · rintro fine _ ⟨⟩
    exact List.forall_mem_singleton.mpr fine

/-- A string is plain if its length has no needless zeros. -/
lemma plain_bytes_iff {s : Span} {content : Bytes} :
    Plain source (.bytes s content) ↔ ¬ Redundant (digitsAt source s.start) := by
  constructor
  · exact fun plain => plain _ .self _ List.mem_cons_self
  · rintro fine _ ⟨⟩
    exact List.forall_mem_singleton.mpr fine

/-- A list is plain if its items are. -/
lemma plain_list_iff {s : Span} {ns : List Node} :
    Plain source (.list s ns) ↔ ∀ n ∈ ns, Plain source n := by
  constructor
  · exact fun plain n hn m occurs => plain m (.item hn occurs)
  · rintro plain m (_ | ⟨hn, occurs⟩)
    · nofun
    · exact plain _ hn m occurs

/-- The lengths of the keys and the values of the entries are plain. -/
def PlainEntries (source : Bytes) (pos : Nat) (es : List (Bytes × Node)) : Prop :=
  (∀ i ∈ keyStarts pos es, ¬ Redundant (digitsAt source i)) ∧ ∀ e ∈ es, Plain source e.2

/-- A dictionary is plain if its keys and values are. -/
lemma plain_dict_iff {s : Span} {es : List (Bytes × Node)} :
    Plain source (.dict s es) ↔ PlainEntries source (s.start + 1) es := by
  constructor
  · intro plain
    refine ⟨fun i hi => ?_, fun e he m occurs => plain m (.value he occurs)⟩
    exact plain _ .self _ (List.mem_map_of_mem hi)
  · rintro ⟨keys, values⟩ m (_ | _ | ⟨he, occurs⟩)
    · exact List.forall_mem_map.mpr keys
    · exact values _ he m occurs

/-- The entry before the others is plain, and so are those, which begin where its value ends. -/
lemma plainEntries_cons {c : Bytes} {e : Bytes × Node} {es : List (Bytes × Node)}
    (entry : Entry Document pos room c e) :
    (¬ Redundant (digitsAt source pos) ∧ Plain source e.2) ∧
      PlainEntries source (pos + c.length) es ↔ PlainEntries source pos (e :: es) := by
  obtain ⟨str, doc⟩ := entry
  have stop := congrArg Span.stop doc.span_eq
  simp only [PlainEntries, keyStarts, List.forall_mem_cons, stop, List.length_append, Nat.add_assoc]
  tauto

/-- A document is written again as bytes that are no longer, and as the same bytes exactly if it is
plain. -/
theorem Document.rewrites {n : Node} (doc : Document pos room b n) (h : StandsAt source pos b) :
    Rewrites b (encode n.value) (Plain source n) := by
  -- containers take room, so the induction is on it
  induction room using Nat.strong_induction_on generalizing pos b n with
  | _ room ih =>
    cases doc with
    | @positive _ _ ds k num =>
      have numeral : (source.drop (pos + 1)).take (pos + (ds.length + 2) - pos - 2) = ds := by
        rw [Nat.add_sub_cancel_left, Nat.add_sub_cancel]
        exact h.left.tail.take
      rw [plain_integer_iff, numeral, Node.value, encode, encodeInteger_natCast]
      exact (num.rewrites.cons _).concat _
    | @negative _ _ ds k num =>
      have numeral : (source.drop (pos + 1)).take (pos + (ds.length + 3) - pos - 2) =
          '-'.toUInt8 :: ds := by
        rw [Nat.add_sub_cancel_left]
        exact h.left.tail.take
      rw [plain_integer_iff, numeral, Node.value, encode]
      exact num.rewrites_signed
    | bytes str =>
      rw [plain_bytes_iff]
      exact str.rewrites h
    | @list _ inner b ns sq =>
      rw [plain_list_iff, Node.value, encode, encodeItems_eq, values_eq, List.flatMap_map]
      refine Rewrites.cons _ (Rewrites.concat ?_ _)
      exact sq.rewrites (fun _ => Plain source) (fun _ ns => ∀ n ∈ ns, Plain source n)
        (fun _ => by simp) (fun _ => List.forall_mem_cons.symm)
        (fun h doc => ih inner (Nat.lt_succ_self inner) doc h) h.tail.left
    | @dict _ inner b es sq =>
      rw [plain_dict_iff, Node.value, encode, encodeEntries_eq, entryValues_eq, List.flatMap_map]
      refine Rewrites.cons _ (Rewrites.concat ?_ _)
      refine sq.rewrites (fun pos e => ¬ Redundant (digitsAt source pos) ∧ Plain source e.2)
        (PlainEntries source) (fun _ => by simp [PlainEntries, keyStarts]) plainEntries_cons ?_
        h.tail.left
      rintro pos c _ h ⟨str, doc⟩
      exact (str.rewrites h.left).append (ih inner (Nat.lt_succ_self inner) doc h.right)

/-- The value of a document keeps to the limits of documents. -/
theorem Document.fits {n : Node} (doc : Document pos room b n) : Fits room n.value := by
  -- there is less room inside a container than for it
  induction room using Nat.strong_induction_on generalizing pos b n with
  | _ room ih =>
    cases doc with
    | positive num => exact .integer num.small
    | negative num =>
      refine .integer ?_
      rw [Int.natAbs_neg]
      exact num.small
    | bytes str =>
      obtain ⟨num⟩ := str
      exact .bytes num.small
    | @list _ inner b ns sq =>
      rw [Node.value, values_eq]
      refine .list (List.forall_mem_map.mpr fun n hn => ?_)
      obtain ⟨_, _, _, -, doc⟩ := sq.exists_part hn
      exact ih inner (Nat.lt_succ_self inner) doc
    | @dict _ inner b es sq =>
      rw [Node.value, entryValues_eq]
      refine .dict (List.forall_mem_map.mpr fun e he => ?_) (List.forall_mem_map.mpr fun e he => ?_)
      all_goals obtain ⟨_, _, _, -, ⟨⟨num⟩, doc⟩⟩ := sq.exists_part he
      · exact num.small
      · exact ih inner (Nat.lt_succ_self inner) doc

end

/-- What was decoded is written again as bytes that are no longer than those that it was decoded from.
They are decoded to the same value, and so written again as themselves. They are the bytes that the
document was decoded from exactly if no numeral in those is redundant. -/
theorem encode_decoded {source : Bytes} {n : Node} (h : decode source = .ok n) :
    (encode n.value).length ≤ n.span.stop ∧
    (∃ m, decodeExact (encode n.value) = .ok m ∧ m.value = n.value ∧
      encode m.value = encode n.value) ∧
    n.raw? source = some (source.take n.span.stop) ∧
    (encode n.value = source.take n.span.stop ↔ Plain source n) := by
  obtain ⟨p, more, rfl, doc⟩ := document_of_decode h
  have whole : StandsAt (p ++ more) 0 p := List.prefix_append p more
  have rewritten := doc.rewrites whole
  have raw : n.raw? (p ++ more) = some p := by
    rw [Node.raw?, doc.span_eq]
    exact Span.slice?_append [] p more
  have stop : n.span.stop = p.length := by rw [doc.span_eq, Nat.zero_add]
  rw [stop, List.take_left]
  refine ⟨rewritten.le, ?_, raw, rewritten.eq_iff⟩
  obtain ⟨m, again, same⟩ := doc.fits.document 0
  exact ⟨m, again.decodeExact, same, congrArg encode same⟩

/-- A zero before the length of a key and a negative zero as its value, in a list that another byte
follows. -/
theorem encode_decoded_shorter :
    let source := Bytes.ofText "ld01:bi-0eeex"
    let n := Node.list ⟨0, 12⟩ [.dict ⟨1, 11⟩ [([98], .integer ⟨6, 10⟩ 0)]]
    decode source = .ok n ∧ encode n.value = Bytes.ofText "ld1:bi0eee" ∧ ¬ Plain source n ∧
      ∃ m, decodeExact (Bytes.ofText "ld1:bi0eee") = .ok m ∧ m.value = n.value := by
  intro source n
  have spelled : source = [108, 100, 48, 49, 58, 98, 105, 45, 48, 101, 101, 101, 120] := by decide
  have decoded : decode source = .ok n := by
    rw [spelled]
    rfl
  have written : encode n.value = Bytes.ofText "ld1:bi0eee" := by decide
  have shorter : encode n.value ≠ source.take n.span.stop := by decide
  obtain ⟨-, ⟨m, again, same, -⟩, -, iff⟩ := encode_decoded decoded
  rw [written] at again
  exact ⟨decoded, written, mt iff.mpr shorter, m, again, same⟩

end Swarm.Bencode
