import Swarm.Proofs.Bencode.Grammar

/-!
# Documents elsewhere

A document is a document wherever it begins and wherever there is at least as much room for
containers: only the stretches in its node change, all by the same distance. So the part of a document
that a node in it was read from is a document on its own.
-/

namespace Swarm.Bencode

/-! ## Moving the stretches -/

/-- The stretch with both ends taken elsewhere. -/
def Span.relocate (f : Nat → Nat) (s : Span) : Span := ⟨f s.start, f s.stop⟩

namespace Node

mutual
/-- The node with every stretch in it taken elsewhere. -/
def relocate (f : Nat → Nat) : Node → Node
  | .integer s n => .integer (s.relocate f) n
  | .bytes s b => .bytes (s.relocate f) b
  | .list s items => .list (s.relocate f) (relocateItems f items)
  | .dict s entries => .dict (s.relocate f) (relocateEntries f entries)
/-- The nodes with every stretch in them taken elsewhere. -/
def relocateItems (f : Nat → Nat) : List Node → List Node
  | [] => []
  | n :: ns => relocate f n :: relocateItems f ns
/-- The entries with every stretch in their nodes taken elsewhere. -/
def relocateEntries (f : Nat → Nat) : List (Bytes × Node) → List (Bytes × Node)
  | [] => []
  | (k, n) :: es => (k, relocate f n) :: relocateEntries f es
end

/-- A list is moved item by item. -/
lemma relocateItems_eq (f : Nat → Nat) (ns : List Node) :
    relocateItems f ns = ns.map (relocate f) := by
  induction ns with
  | nil => rfl
  | cons n ns ih => rw [relocateItems, ih, List.map_cons]

/-- Entries are moved one by one, and their keys stay. -/
lemma relocateEntries_eq (f : Nat → Nat) (es : List (Bytes × Node)) :
    relocateEntries f es = es.map fun e => (e.1, e.2.relocate f) := by
  induction es with
  | nil => rfl
  | cons e es ih => rw [relocateEntries, ih, List.map_cons]

mutual
/-- Taking the stretches elsewhere does not touch the value. -/
theorem value_relocate (f : Nat → Nat) : (n : Node) → (n.relocate f).value = n.value
  | .integer _ _ | .bytes _ _ => rfl
  | .list _ items => congrArg Value.list (values_relocate f items)
  | .dict _ entries => congrArg Value.dict (entryValues_relocate f entries)

/-- The values of a list stay when it is moved. -/
theorem values_relocate (f : Nat → Nat) :
    (ns : List Node) → values (relocateItems f ns) = values ns
  | [] => rfl
  | n :: ns => by rw [relocateItems, values, values, value_relocate f n, values_relocate f ns]

/-- The values of entries stay when they are moved. -/
theorem entryValues_relocate (f : Nat → Nat) :
    (es : List (Bytes × Node)) → entryValues (relocateEntries f es) = entryValues es
  | [] => rfl
  | (k, n) :: es => by
    rw [relocateEntries, entryValues, entryValues, value_relocate f n, entryValues_relocate f es]
end

/-! What a node holds moves with it, and what is not a node stays. -/

section
variable (f : Nat → Nat)

/-- A moved node holds the same integer. -/
@[simp] lemma int?_relocate (n : Node) : (n.relocate f).int? = n.int? := by
  cases n <;> rfl

/-- A moved node holds the same bytes. -/
@[simp] lemma bytes?_relocate (n : Node) : (n.relocate f).bytes? = n.bytes? := by
  cases n <;> rfl

/-- The items of a moved list are moved. -/
@[simp] lemma items?_relocate (n : Node) :
    (n.relocate f).items? = n.items?.map (List.map (relocate f)) := by
  cases n with
  | list s items => exact congrArg some (relocateItems_eq f items)
  | _ => rfl

/-- The entries of a moved dictionary are moved. -/
@[simp] lemma entries?_relocate (n : Node) :
    (n.relocate f).entries? = n.entries?.map (List.map fun e => (e.1, e.2.relocate f)) := by
  cases n with
  | dict s entries => exact congrArg some (relocateEntries_eq f entries)
  | _ => rfl

/-- What is found in a moved dictionary is moved. -/
@[simp] lemma lookup?_relocate (key : Bytes) (n : Node) :
    (n.relocate f).lookup? key = (n.lookup? key).map (relocate f) := by
  cases n with
  | dict s entries =>
    simp only [relocate, lookup?, relocateEntries_eq, List.find?_map, Option.map_map]
    rfl
  | _ => rfl

end

end Node

/-! ## Moving a document -/

section
variable {pos pos' room room' : Nat} {b : Bytes} {n : Node} {f : Nat → Nat}

/-- If each element can be taken elsewhere, so can several in a row. -/
lemma Sequence.relocate {α β : Type} {spells : Nat → Nat → Bytes → α → Prop}
    {spells' : Nat → Nat → Bytes → β → Prop} {g : α → β} {as : List α}
    (sq : Sequence spells pos room b as)
    (h : ∀ {i c a}, i + c.length ≤ b.length → spells (pos + i) room c a →
      spells' (pos' + i) room' c (g a)) :
    Sequence spells' pos' room' b (as.map g) := by
  induction sq generalizing pos' with
  | nil => exact .nil
  | @cons pos room b a bs as sp _ ih =>
    refine .cons (h (i := 0) (by simp) sp) (ih ?_)
    intro i c a le sp
    rw [Nat.add_assoc] at sp ⊢
    refine h ?_ sp
    rw [List.length_append]
    omega

/-- If the value of an entry can be taken elsewhere, so can the entry. -/
lemma Entry.relocate {spells : Nat → Nat → Bytes → Node → Prop} {e : Bytes × Node}
    (entry : Entry spells pos room b e)
    (h : ∀ {i c n}, i + c.length ≤ b.length → spells (pos + i) room c n →
      spells (pos' + i) room' c (n.relocate f)) :
    Entry spells pos' room' b (e.1, e.2.relocate f) := by
  cases entry with
  | @intro _ _ k key c n str sp => exact .intro str (h (by simp) sp)

/-- A document can be taken to another offset, and to a place with more room. -/
theorem Document.relocate (doc : Document pos room b n) (more : room ≤ room')
    (move : ∀ i ≤ b.length, f (pos + i) = pos' + i) :
    Document pos' room' b (n.relocate f) := by
  induction room using Nat.strong_induction_on generalizing pos pos' room' b n with
  | _ room ih =>
    -- the stretch of the whole document goes where the document goes
    have span (length : Nat) (h : length = b.length) :
        Span.relocate f ⟨pos, pos + length⟩ = ⟨pos', pos' + length⟩ := by
      have start : f pos = pos' := move 0 (Nat.zero_le _)
      rw [Span.relocate, start, move length h.le]
    -- and so does what stands in a container
    have inside {i size} (le : 1 + i + size ≤ b.length) (j : Nat) (hj : j ≤ size) :
        f (pos + 1 + i + j) = pos' + 1 + i + j := by
      have moved := move (1 + i + j) (by omega)
      simpa only [Nat.add_assoc] using moved
    cases doc with
    | positive num =>
      rw [Node.relocate, span _ (by simp)]
      exact .positive num
    | negative num =>
      rw [Node.relocate, span _ (by simp)]
      exact .negative num
    | bytes str =>
      rw [Node.relocate, span _ rfl]
      exact .bytes str
    | @list _ inner b ns sq =>
      obtain ⟨room', rfl⟩ : ∃ r, room' = r + 1 := ⟨room' - 1, by omega⟩
      rw [Node.relocate, Node.relocateItems_eq, span _ (by simp)]
      refine .list (sq.relocate fun {i c n} le doc => ?_)
      refine ih inner (Nat.lt_succ_self inner) doc (Nat.le_of_succ_le_succ more) (inside ?_)
      simp only [List.length_append, List.length_cons]
      omega
    | @dict _ inner b es sq =>
      obtain ⟨room', rfl⟩ : ∃ r, room' = r + 1 := ⟨room' - 1, by omega⟩
      rw [Node.relocate, Node.relocateEntries_eq, span _ (by simp)]
      refine .dict (sq.relocate fun {i c e} le entry => entry.relocate fun {j d n} le' doc => ?_)
      rw [Nat.add_assoc] at doc ⊢
      refine ih inner (Nat.lt_succ_self inner) doc (Nat.le_of_succ_le_succ more) (inside ?_)
      simp only [List.length_append, List.length_cons]
      omega

end

/-! ## Parts of a document -/

/-- The first node is the second, or one in it at any depth. -/
inductive Occurs : Node → Node → Prop where
  | self {n} :
    Occurs n n
  | item {m n span items} :
    n ∈ items →
    Occurs m n →
    Occurs m (.list span items)
  | value {m k n span entries} :
    (k, n) ∈ entries →
    Occurs m n →
    Occurs m (.dict span entries)

/-- What occurs in a part occurs in the whole. -/
lemma Occurs.trans {k m n : Node} (h : Occurs k m) (h' : Occurs m n) : Occurs k n := by
  induction h' with
  | self => exact h
  | item hn _ ih => exact .item hn ih
  | value hn _ ih => exact .value hn ih

/-- What is found under a key stands in the dictionary. -/
lemma occurs_of_lookup? {key : Bytes} {n m : Node} (h : n.lookup? key = some m) : Occurs m n := by
  cases n with
  | dict span entries =>
    obtain ⟨e, found, rfl⟩ := Option.map_eq_some_iff.mp h
    exact .value (List.mem_of_find?_eq_some found) .self
  | _ => cases h

/-- Each element is spelled by a part of what spells them all. -/
lemma Sequence.exists_part {α : Type} {spells : Nat → Nat → Bytes → α → Prop} {pos room : Nat}
    {b : Bytes} {as : List α} (sq : Sequence spells pos room b as) {a : α} (ha : a ∈ as) :
    ∃ before c after, b = before ++ c ++ after ∧ spells (pos + before.length) room c a := by
  induction sq with
  | nil => cases ha
  | @cons pos room c a' bs as sp _ ih =>
    rcases List.mem_cons.mp ha with rfl | ha
    · exact ⟨[], c, bs, rfl, sp⟩
    · obtain ⟨before, d, after, rfl, sp'⟩ := ih ha
      refine ⟨c ++ before, d, after, by simp, ?_⟩
      rwa [List.length_append, ← Nat.add_assoc]

/-- A node in a document was read from a part of it that is a document on its own. -/
theorem Document.exists_part {pos room : Nat} {b : Bytes} {n m : Node}
    (doc : Document pos room b n) (occurs : Occurs m n) :
    ∃ before c after inner, b = before ++ c ++ after ∧ inner ≤ room ∧
      Document (pos + before.length) inner c m := by
  -- each step of the induction opens one more container
  induction occurs generalizing pos room b with
  | self => exact ⟨[], b, [], room, by simp, Nat.le_refl _, doc⟩
  | item hn _ ih =>
    cases doc with
    | @list _ room b _ sq =>
      obtain ⟨before, c, after, rfl, doc⟩ := sq.exists_part hn
      obtain ⟨before', d, after', inner, rfl, le, doc⟩ := ih doc
      refine ⟨'l'.toUInt8 :: before ++ before', d, after' ++ after ++ ['e'.toUInt8], inner,
        by simp, Nat.le_succ_of_le le, ?_⟩
      simpa [Nat.add_assoc, Nat.add_comm, Nat.add_left_comm] using doc
  | value hn _ ih =>
    cases doc with
    | @dict _ room b _ sq =>
      obtain ⟨before, _, after, rfl, entry⟩ := sq.exists_part hn
      cases entry with
      | @intro _ _ key _ c _ str doc =>
        obtain ⟨before', d, after', inner, rfl, le, doc⟩ := ih doc
        refine ⟨'d'.toUInt8 :: before ++ key ++ before', d, after' ++ after ++ ['e'.toUInt8], inner,
          by simp, Nat.le_succ_of_le le, ?_⟩
        simpa [Nat.add_assoc, Nat.add_comm, Nat.add_left_comm] using doc

/-- The part of a whole document that a node in it covers is a whole document on its own, whose node
counts its stretches from the beginning of the part. -/
theorem Document.exists_alone {room : Nat} {b : Bytes} {n m : Node} (doc : Document 0 room b n)
    (occurs : Occurs m n) :
    ∃ before part after, b = before ++ part ++ after ∧
      m.span = ⟨before.length, before.length + part.length⟩ ∧
      Document 0 room part (m.relocate (· - m.span.start)) := by
  obtain ⟨before, part, after, inner, eq, small, doc⟩ := doc.exists_part occurs
  rw [Nat.zero_add] at doc
  refine ⟨before, part, after, eq, doc.span_eq, doc.relocate small fun i _ => ?_⟩
  rw [doc.span_eq, Nat.add_sub_cancel_left, Nat.zero_add]

end Swarm.Bencode
