import Swarm.Bencode.Decoder
import Swarm.Proofs.Bencode.Writing

/-!
# Written forms are prefix free

Where a written form stands, no other one stands: its first byte tells the kind of the value, a length or
a number ends at the first byte that is no digit, and a container at the first byte that begins no
element. So a value is known from its written form, whatever follows it, and also if it is too large or
too deeply nested to be read back.
-/

namespace Swarm.Bencode

/-! ## Content -/

mutual
/-- The nodes have the same content, wherever they were read from. -/
inductive Alike : Node → Node → Prop where
  | integer {s s' n} :
    Alike (.integer s n) (.integer s' n)
  | bytes {s s' b} :
    Alike (.bytes s b) (.bytes s' b)
  | list {s s' ns ns'} :
    AlikeItems ns ns' →
    Alike (.list s ns) (.list s' ns')
  | dict {s s' es es'} :
    AlikeEntries es es' →
    Alike (.dict s es) (.dict s' es')
/-- As many nodes on both sides have the same content, each as the other. -/
inductive AlikeItems : List Node → List Node → Prop where
  | nil :
    AlikeItems [] []
  | cons {n n' ns ns'} :
    Alike n n' →
    AlikeItems ns ns' →
    AlikeItems (n :: ns) (n' :: ns')
/-- As many entries on both sides have the same keys and nodes with the same content. -/
inductive AlikeEntries : List (Bytes × Node) → List (Bytes × Node) → Prop where
  | nil :
    AlikeEntries [] []
  | cons {k n n' es es'} :
    Alike n n' →
    AlikeEntries es es' →
    AlikeEntries ((k, n) :: es) ((k, n') :: es')
end

mutual
/-- Nodes that differ in their stretches only have the same value. -/
theorem Alike.value_eq : {m n : Node} → Alike m n → m.value = n.value
  | _, _, .integer => rfl
  | _, _, .bytes => rfl
  | _, _, .list items => congrArg Value.list items.values_eq
  | _, _, .dict entries => congrArg Value.dict entries.entryValues_eq

/-- Lists of nodes that differ in their stretches only have the same values. -/
theorem AlikeItems.values_eq : {ms ns : List Node} → AlikeItems ms ns →
    Node.values ms = Node.values ns
  | _, _, .nil => rfl
  | _, _, .cons first others => by
    rw [Node.values, Node.values, first.value_eq, others.values_eq]

/-- Entries that differ in the stretches of their nodes only have the same values. -/
theorem AlikeEntries.entryValues_eq : {es fs : List (Bytes × Node)} → AlikeEntries es fs →
    Node.entryValues es = Node.entryValues fs
  | _, _, .nil => rfl
  | _, _, .cons first others => by
    rw [Node.entryValues, Node.entryValues, first.value_eq, others.entryValues_eq]
end

mutual
/-- Nodes with the same value differ in their stretches only. -/
theorem alike_of_value_eq : (m n : Node) → m.value = n.value → Alike m n
  | .integer .., n, h => by
    cases n <;> cases h
    exact .integer
  | .bytes .., n, h => by
    cases n <;> cases h
    exact .bytes
  | .list _ ms, n, h => by
    cases n with
    | list _ ns => exact .list (alikeItems_of_values_eq ms ns (Value.list.inj h))
    | _ => cases h
  | .dict _ es, n, h => by
    cases n with
    | dict _ fs => exact .dict (alikeEntries_of_entryValues_eq es fs (Value.dict.inj h))
    | _ => cases h

/-- Lists of nodes with the same values differ in their stretches only. -/
theorem alikeItems_of_values_eq : (ms ns : List Node) → Node.values ms = Node.values ns →
    AlikeItems ms ns
  | [], [], _ => .nil
  | m :: ms, n :: ns, h =>
    .cons (alike_of_value_eq m n (List.cons.inj h).1)
      (alikeItems_of_values_eq ms ns (List.cons.inj h).2)

/-- Entries with the same values differ in the stretches of their nodes only. -/
theorem alikeEntries_of_entryValues_eq : (es fs : List (Bytes × Node)) →
    Node.entryValues es = Node.entryValues fs → AlikeEntries es fs
  | [], [], _ => .nil
  | (k, m) :: es, (l, n) :: fs, h => by
    obtain ⟨first, others⟩ := List.cons.inj h
    obtain ⟨rfl, value⟩ := Prod.mk.inj first
    exact .cons (alike_of_value_eq m n value) (alikeEntries_of_entryValues_eq es fs others)
end

/-- Nodes have the same content exactly if they have the same value. -/
theorem alike_iff {m n : Node} : Alike m n ↔ m.value = n.value :=
  ⟨Alike.value_eq, alike_of_value_eq m n⟩

/-! ## Numbers and strings -/

variable {v w : Value} {r r' : Bytes}

/-- A number in decimal is cut off by the same byte that is no digit in one way only. -/
lemma decimal_cut {m n : Nat} {x : UInt8} (hx : Cursor.isDigit x = false)
    (h : decimal m ++ x :: r = decimal n ++ x :: r') : m = n ∧ r = r' := by
  obtain ⟨digits, -, rest⟩ := digits_cut (fun _ => isDigit_of_mem_decimal)
    (fun _ => isDigit_of_mem_decimal) hx hx h
  refine ⟨?_, rest⟩
  rw [← digitsValue_decimal m, digits, digitsValue_decimal]

/-- The length before a string tells where it ends. -/
lemma encodeString_cut {b c : Bytes} (h : encodeString b ++ r = encodeString c ++ r') :
    b = c ∧ r = r' := by
  rw [encodeString, encodeString, List.append_assoc, List.append_assoc] at h
  obtain ⟨length, content⟩ := decimal_cut (by decide) h
  exact List.append_inj content length

/-- A sign is no digit, so it stands in both or in neither. -/
lemma sign_cut {m n : Int} {k l : Nat}
    (h : (if m < 0 then ['-'.toUInt8] else []) ++ (decimal k ++ r) =
      (if n < 0 then ['-'.toUInt8] else []) ++ (decimal l ++ r')) :
    (m < 0 ↔ n < 0) ∧ decimal k ++ r = decimal l ++ r' := by
  have unsigned {k : Nat} {r r' : Bytes} : decimal k ++ r ≠ '-'.toUInt8 :: r' :=
    head_ne_of_digits (fun _ => isDigit_of_mem_decimal) (decimal_ne_nil k) rfl r'
  split_ifs at h with negative negative' negative'
  · exact ⟨iff_of_true negative negative', (List.cons.inj h).2⟩
  · exact absurd h.symm unsigned
  · exact absurd h unsigned
  · exact ⟨iff_of_false negative negative', h⟩

/-- The last byte of an integer tells where it ends. -/
lemma encodeInteger_cut {m n : Int} (h : encodeInteger m ++ r = encodeInteger n ++ r') :
    m = n ∧ r = r' := by
  rw [encodeInteger, encodeInteger] at h
  have after := (List.cons.inj h).2
  simp only [List.append_eq, List.append_assoc] at after
  obtain ⟨signs, digits⟩ := sign_cut after
  obtain ⟨same, rest⟩ := decimal_cut (by decide) digits
  exact ⟨by omega, rest⟩

/-! ## Kinds -/

/-- The kind of a value. -/
def Value.kind : Value → Kind
  | .integer _ => .integer
  | .bytes _ => .bytes
  | .list _ => .list
  | .dict _ => .dict

/-- The kind of value whose written form begins with a byte. -/
def kindAt (x : UInt8) : Kind :=
  if x = 'i'.toUInt8 then .integer
  else if x = 'l'.toUInt8 then .list
  else if x = 'd'.toUInt8 then .dict
  else .bytes

/-- A digit opens a string. -/
lemma kindAt_digit {d : UInt8} (digit : Cursor.isDigit d = true) : kindAt d = .bytes := by
  have other {x : UInt8} (hx : Cursor.isDigit x = false) : d ≠ x := by
    rintro rfl
    rw [digit] at hx
    cases hx
  rw [kindAt, if_neg (other rfl), if_neg (other rfl), if_neg (other rfl)]

/-- The first byte of an encoding tells the kind of value. -/
lemma encode_kind (v : Value) : ∃ x later, encode v = x :: later ∧ kindAt x = v.kind := by
  cases v with
  | bytes b =>
    obtain ⟨d, later, eq, digit⟩ := encodeString_head b
    exact ⟨d, later, eq, kindAt_digit digit⟩
  | _ => exact ⟨_, _, rfl, rfl⟩

/-- Encodings that go on to the same bytes are of the same kind. -/
lemma kind_eq (h : encode v ++ r = encode w ++ r') : v.kind = w.kind := by
  obtain ⟨x, later, eq, kind⟩ := encode_kind v
  obtain ⟨y, later', eq', kind'⟩ := encode_kind w
  rw [eq, eq'] at h
  rw [← kind, ← kind', (List.cons.inj h).1]

/-! ## Containers -/

/-- If no written form of an element continues another one, or begins with the byte that ends a
container, then no two containers are written alike. -/
lemma flatMap_cut {α : Type} {write : α → Bytes} {as bs : List α}
    (writes : ∀ a, ∃ x later, write a = x :: later ∧ x ≠ 'e'.toUInt8)
    (element : ∀ a ∈ as, ∀ {b r r'}, write a ++ r = write b ++ r' → a = b ∧ r = r')
    (h : as.flatMap write ++ 'e'.toUInt8 :: r = bs.flatMap write ++ 'e'.toUInt8 :: r') :
    as = bs ∧ r = r' := by
  induction as generalizing bs with
  | nil =>
    cases bs with
    | nil => exact ⟨rfl, (List.cons.inj h).2⟩
    | cons b bs =>
      -- the end would have to be the first byte of an element
      obtain ⟨x, later, eq, ne⟩ := writes b
      rw [List.flatMap_cons, eq] at h
      exact absurd (List.cons.inj h).1.symm ne
  | cons a as ih =>
    obtain ⟨first, others⟩ := List.forall_mem_cons.mp element
    cases bs with
    | nil =>
      obtain ⟨x, later, eq, ne⟩ := writes a
      rw [List.flatMap_cons, eq] at h
      exact absurd (List.cons.inj h).1 ne
    | cons b bs =>
      rw [List.flatMap_cons, List.flatMap_cons, List.append_assoc, List.append_assoc] at h
      obtain ⟨rfl, behind⟩ := first h
      obtain ⟨rfl, rest⟩ := ih others behind
      exact ⟨rfl, rest⟩

/-- An entry can be cut off in one way only if its value can. -/
lemma encodeEntry_cut {e f : Bytes × Value}
    (value : ∀ {w r r'}, encode e.2 ++ r = encode w ++ r' → e.2 = w ∧ r = r')
    (h : encodeEntry e ++ r = encodeEntry f ++ r') : e = f ∧ r = r' := by
  rw [encodeEntry, encodeEntry, List.append_assoc, List.append_assoc] at h
  obtain ⟨key, behind⟩ := encodeString_cut h
  obtain ⟨same, rest⟩ := value behind
  exact ⟨Prod.ext key same, rest⟩

/-! ## Values -/

/-- What holds of a container if it holds of all that stands in it holds of every value. -/
theorem Value.inductionOn {motive : Value → Prop} (v : Value)
    (integer : ∀ n, motive (.integer n)) (bytes : ∀ b, motive (.bytes b))
    (list : ∀ vs, (∀ v ∈ vs, motive v) → motive (.list vs))
    (dict : ∀ es, (∀ e ∈ es, motive e.2) → motive (.dict es)) : motive v :=
  @Value.rec motive (fun vs => ∀ v ∈ vs, motive v) (fun es => ∀ e ∈ es, motive e.2)
    (fun e => motive e.2) integer bytes list dict nofun
    (fun _ _ first others => List.forall_mem_cons.mpr ⟨first, others⟩) nofun
    (fun _ _ first others => List.forall_mem_cons.mpr ⟨first, others⟩) (fun _ _ value => value) v

/-- Where the written form of a value stands, that of no other value stands. -/
theorem encode_cut (h : encode v ++ r = encode w ++ r') : v = w ∧ r = r' := by
  have kinds := kind_eq h
  -- both values are of one kind, so that the other cases cannot arise
  induction v using Value.inductionOn generalizing w r r' with
  | integer m =>
    cases w with
    | integer n =>
      obtain ⟨rfl, rest⟩ := encodeInteger_cut h
      exact ⟨rfl, rest⟩
    | _ => cases kinds
  | bytes b =>
    cases w with
    | bytes c =>
      obtain ⟨rfl, rest⟩ := encodeString_cut h
      exact ⟨rfl, rest⟩
    | _ => cases kinds
  | list vs ih =>
    cases w with
    | list ws =>
      rw [encode, encode, encodeItems_eq, encodeItems_eq] at h
      have items := (List.cons.inj h).2
      simp only [List.append_eq, List.append_assoc] at items
      obtain ⟨rfl, rest⟩ := flatMap_cut encode_head (fun v inside _ _ _ h => ih v inside h (kind_eq h))
        items
      exact ⟨rfl, rest⟩
    | _ => cases kinds
  | dict es ih =>
    cases w with
    | dict fs =>
      rw [encode, encode, encodeEntries_eq, encodeEntries_eq] at h
      have entries := (List.cons.inj h).2
      simp only [List.append_eq, List.append_assoc] at entries
      obtain ⟨rfl, rest⟩ := flatMap_cut encodeEntry_head
        (fun e inside _ _ _ => encodeEntry_cut fun h => ih e inside h (kind_eq h)) entries
      exact ⟨rfl, rest⟩
    | _ => cases kinds

/-- An encoding is a prefix of no encoding but itself. -/
lemma eq_of_encode_isPrefix (h : encode v <+: encode w) : v = w := by
  obtain ⟨rest, eq⟩ := h
  exact (encode_cut (eq.trans (List.append_nil _).symm)).1

/-- Different values have different encodings. -/
lemma encode_eq_iff : encode v = encode w ↔ v = w :=
  ⟨fun h => eq_of_encode_isPrefix (h ▸ List.prefix_rfl), congrArg encode⟩

/-- Values are written alike exactly if they are the same, nodes exactly if they have the same content,
and no written form is the beginning of that of another value. The content of two sources that can be
decoded is the same exactly if it is written alike, whatever the sources look like. -/
theorem encode_prefixFree :
    (∀ v w : Value, (encode v = encode w ↔ v = w) ∧ (encode v <+: encode w → v = w)) ∧
    (∀ m n : Node, (encode m.value = encode n.value ↔ Alike m n) ∧
      (encode m.value <+: encode n.value → Alike m n)) ∧
    (∀ b c m n, decode b = .ok m → decode c = .ok n →
      (Alike m n ↔ encode m.value = encode n.value)) := by
  have alike {m n : Node} : encode m.value = encode n.value ↔ Alike m n :=
    encode_eq_iff.trans alike_iff.symm
  refine ⟨fun v w => ⟨encode_eq_iff, eq_of_encode_isPrefix⟩, ?_, ?_⟩
  · exact fun m n => ⟨alike, fun h => alike_iff.mpr (eq_of_encode_isPrefix h)⟩
  · exact fun b c m n _ _ => alike.symm

/-- A list with a zero before its number and one without have the same content in other stretches. -/
theorem encode_prefixFree_leading_zero :
    ∃ m n, decode (Bytes.ofText "li01ee") = .ok m ∧ decode (Bytes.ofText "li1ee") = .ok n ∧
      Alike m n ∧ m.span ≠ n.span := by
  have read : decode (Bytes.ofText "li01ee") = .ok (.list ⟨0, 6⟩ [.integer ⟨1, 5⟩ 1]) := by rfl
  have read' : decode (Bytes.ofText "li1ee") = .ok (.list ⟨0, 5⟩ [.integer ⟨1, 4⟩ 1]) := by rfl
  exact ⟨_, _, read, read', (encode_prefixFree.2.2 _ _ _ _ read read').mpr rfl, by decide⟩

end Swarm.Bencode
