import Swarm.Proofs.Bencode.Acceptance
import Swarm.Proofs.Bencode.Relocation

/-!
# The stretches of a document

Every node of a decoded document covers bytes of the source that are a document on their own, with the
same value and the same stretches counted from their beginning. The children of a container tile it:
they lie one after the other between the bytes that begin and end it, with nothing but the keys of a
dictionary before them.
-/

namespace Swarm.Bencode

/-- The stretches of the elements lie one after the other from `pos` to `stop`, and before each there
is a gap that belongs to it. -/
inductive Tiles {α : Type} (stretch : α → Span) (gap : Span → α → Prop) :
    (pos stop : Nat) → List α → Prop where
  | nil {pos} :
    Tiles stretch gap pos pos []
  | cons {pos stop a as} :
    pos ≤ (stretch a).start →
    gap ⟨pos, (stretch a).start⟩ a →
    (stretch a).start < (stretch a).stop →
    Tiles stretch gap (stretch a).stop stop as →
    Tiles stretch gap pos stop (a :: as)

section Tiles

variable {α : Type} {stretch : α → Span} {gap : Span → α → Prop} {pos stop : Nat} {as : List α}

/-- What is tiled does not end before it begins. -/
lemma Tiles.le (h : Tiles stretch gap pos stop as) : pos ≤ stop := by
  induction h with
  | nil => exact Nat.le_refl _
  | cons le _ lt _ ih => omega

/-- The stretches that tile something lie inside it. -/
lemma Tiles.inside (h : Tiles stretch gap pos stop as) :
    ∀ a ∈ as, pos ≤ (stretch a).start ∧ (stretch a).stop ≤ stop := by
  induction h with
  | nil => simp
  | cons le _ lt rest ih =>
    refine List.forall_mem_cons.mpr ⟨⟨le, rest.le⟩, fun a ha => ?_⟩
    obtain ⟨after, before⟩ := ih a ha
    exact ⟨by omega, before⟩

/-- What lies one after the other is in order and does not overlap. -/
lemma Tiles.pairwise (h : Tiles stretch gap pos stop as) :
    as.Pairwise fun a a' => (stretch a).stop ≤ (stretch a').start := by
  induction h with
  | nil => exact .nil
  | cons _ _ _ rest ih => exact .cons (fun a ha => (rest.inside a ha).1) ih

end Tiles

/-- Nothing stands in the gap. -/
def Empty (gap : Span) (_ : Node) : Prop := gap.start = gap.stop

/-- The key of the entry stands in the gap, as a byte string. -/
def HoldsKey (source : Bytes) (gap : Span) (e : Bytes × Node) : Prop :=
  ∃ b, gap.slice? source = some b ∧ ByteString b e.1

namespace Node

/-- The nodes that stand directly in a container, in order. -/
def children : Node → List Node
  | .integer .. | .bytes .. => []
  | .list _ items => items
  | .dict _ entries => entries.map (·.2)

/-- The items of a list cover what stands between its `l` and its `e`. The values of a dictionary,
each with its key before it, cover what stands between its `d` and its `e`. -/
def Tiled (source : Bytes) : Node → Prop
  | .integer .. | .bytes .. => True
  | .list s items =>
    ∃ stop, s.stop = stop + 1 ∧ source[s.start]? = some 'l'.toUInt8 ∧
      source[stop]? = some 'e'.toUInt8 ∧ Tiles span Empty (s.start + 1) stop items
  | .dict s entries =>
    ∃ stop, s.stop = stop + 1 ∧ source[s.start]? = some 'd'.toUInt8 ∧
      source[stop]? = some 'e'.toUInt8 ∧
      Tiles (fun e => e.2.span) (HoldsKey source) (s.start + 1) stop entries

end Node

/-- The bytes that a node covers are a document of its value, and its children tile it. -/
structure Placed (source : Bytes) (root n : Node) : Prop where
  inside_root : root.span.start ≤ n.span.start ∧ n.span.stop ≤ root.span.stop
  inside_source : n.span.stop ≤ source.length
  document : ∃ part m, n.raw? source = some part ∧ decodeExact part = .ok m ∧
    m.value = n.value ∧ m = n.relocate (· - n.span.start)
  children_inside : ∀ m ∈ n.children, n.span.start < m.span.start ∧ m.span.stop < n.span.stop
  children_ordered : n.children.Pairwise fun m m' => m.span.stop ≤ m'.span.start
  tiled : n.Tiled source

/-! ## Tilings from the grammar -/

/-- The slice between what stands before and after it. -/
lemma Span.slice?_append (before b after : Bytes) :
    Span.slice? ⟨before.length, before.length + b.length⟩ (before ++ b ++ after) = some b := by
  have inside : before.length ≤ before.length + b.length ∧
      before.length + b.length ≤ (before ++ b ++ after).length := by
    simp
  rw [Span.slice?, if_pos inside]
  simp

/-- Elements that are read one after the other tile what they are read from, if each of them covers
the end of its part and its gap is the beginning. -/
lemma Sequence.tiles {α : Type} {spells : Nat → Nat → Bytes → α → Prop} {stretch : α → Span}
    {gap : Span → α → Prop} {source before b after : Bytes} {pos room : Nat} {as : List α}
    (sq : Sequence spells pos room b as)
    (element : ∀ {before c after a}, source = before ++ c ++ after →
      spells before.length room c a → before.length ≤ (stretch a).start ∧
      gap ⟨before.length, (stretch a).start⟩ a ∧ (stretch a).start < (stretch a).stop ∧
      (stretch a).stop = before.length + c.length)
    (hpos : pos = before.length) (eq : source = before ++ b ++ after) :
    Tiles stretch gap pos (pos + b.length) as := by
  induction sq generalizing before with
  | nil => exact .nil
  | @cons pos room c a bs as sp _ ih =>
    subst hpos
    have here : source = before ++ c ++ (bs ++ after) := eq.trans (by simp)
    have later : source = before ++ c ++ bs ++ after := eq.trans (by simp)
    obtain ⟨le, hgap, lt, stop⟩ := element here sp
    refine .cons le hgap lt ?_
    rw [stop, List.length_append, ← Nat.add_assoc]
    exact ih element List.length_append.symm later

/-- A value covers its part, and nothing stands before it. -/
lemma Document.tile {before c : Bytes} {room : Nat} {n : Node}
    (doc : Document before.length room c n) :
    before.length ≤ n.span.start ∧ Empty ⟨before.length, n.span.start⟩ n ∧
      n.span.start < n.span.stop ∧ n.span.stop = before.length + c.length := by
  obtain ⟨x, later, rfl, -⟩ := doc.head
  rw [doc.span_eq]
  exact ⟨Nat.le_refl _, rfl, by simp, rfl⟩

/-- A value of a dictionary covers the end of its part, and its key stands before it. -/
lemma Entry.tile {source before c after : Bytes} {room : Nat} {e : Bytes × Node}
    (eq : source = before ++ c ++ after) (entry : Entry Document before.length room c e) :
    before.length ≤ e.2.span.start ∧ HoldsKey source ⟨before.length, e.2.span.start⟩ e ∧
      e.2.span.start < e.2.span.stop ∧ e.2.span.stop = before.length + c.length := by
  cases entry with
  | @intro _ _ k key b n str doc =>
    obtain ⟨x, later, rfl, -⟩ := doc.head
    rw [doc.span_eq]
    refine ⟨Nat.le_add_right _ _, ⟨k, ?_, str⟩, by simp, by simp [Nat.add_assoc]⟩
    have cut : source = before ++ k ++ (x :: later ++ after) := by simp [eq]
    rw [cut]
    exact Span.slice?_append _ _ _

/-- Where the bytes of a container stand, and what is between them. -/
lemma container_bytes (before c after : Bytes) (first last : UInt8) :
    let source := before ++ (first :: c ++ [last]) ++ after
    source[before.length]? = some first ∧ source[before.length + 1 + c.length]? = some last ∧
      source = before ++ [first] ++ c ++ (last :: after) := by
  intro source
  have eq : source = before ++ [first] ++ c ++ (last :: after) := by simp [source]
  refine ⟨by simp [source], ?_, eq⟩
  have length : (before ++ [first] ++ c).length = before.length + 1 + c.length := by
    simp only [List.length_append, List.length_singleton]
  rw [eq, ← length, List.getElem?_append_right (Nat.le_refl _), Nat.sub_self]
  rfl

/-- The children of a node tile it. -/
lemma Document.tiled {before b after : Bytes} {room : Nat} {n : Node}
    (doc : Document before.length room b n) : n.Tiled (before ++ b ++ after) := by
  cases doc with
  | positive | negative | bytes => trivial
  | @list _ room c ns sq =>
    obtain ⟨first, last, eq⟩ := container_bytes before c after 'l'.toUInt8 'e'.toUInt8
    refine ⟨before.length + 1 + c.length, ?_, first, last, ?_⟩
    · simp only [Nat.add_comm, Nat.add_left_comm]
    · exact sq.tiles (fun _ => Document.tile) (by simp) eq
  | @dict _ room c es sq =>
    obtain ⟨first, last, eq⟩ := container_bytes before c after 'd'.toUInt8 'e'.toUInt8
    refine ⟨before.length + 1 + c.length, ?_, first, last, ?_⟩
    · simp only [Nat.add_comm, Nat.add_left_comm]
    · exact sq.tiles Entry.tile (by simp) eq

/-- Tiles lie strictly inside what they tile and its first and last byte, and in order. -/
lemma Node.Tiled.children {source : Bytes} {n : Node} (tiled : n.Tiled source) :
    (∀ m ∈ n.children, n.span.start < m.span.start ∧ m.span.stop < n.span.stop) ∧
      n.children.Pairwise fun m m' => m.span.stop ≤ m'.span.start := by
  cases n with
  | integer | bytes => exact ⟨by simp [Node.children], .nil⟩
  | list s items =>
    obtain ⟨stop, eq, -, -, tiles⟩ := tiled
    refine ⟨fun m hm => ?_, tiles.pairwise⟩
    have inside := tiles.inside m hm
    simp only [Node.span] at inside ⊢
    omega
  | dict s entries =>
    obtain ⟨stop, eq, -, -, tiles⟩ := tiled
    refine ⟨fun m hm => ?_, List.pairwise_map.mpr tiles.pairwise⟩
    obtain ⟨e, he, rfl⟩ := List.mem_map.mp hm
    have inside := tiles.inside e he
    simp only [Node.span] at inside ⊢
    omega

/-- Every node of a decoded document, at any depth, covers bytes inside the source and inside the
document. They decode to a node of the same value, in which every stretch is counted from the
beginning of these bytes. The children of the node lie strictly inside it, in order and apart, and
tile it. -/
theorem decode_placed {source : Bytes} {root n : Node} (h : decode source = .ok root)
    (occurs : Occurs n root) : Placed source root n := by
  obtain ⟨p, more, rfl, doc⟩ := document_of_decode h
  obtain ⟨before, b, after, room, rfl, small, part⟩ := doc.exists_part occurs
  rw [Nat.zero_add] at part
  have whole : before ++ b ++ after ++ more = before ++ b ++ (after ++ more) :=
    List.append_assoc ..
  have tiled : n.Tiled (before ++ b ++ after ++ more) := by
    rw [whole]
    exact part.tiled
  -- alone, the part begins at 0 and has all the room
  have alone : Document 0 64 b (n.relocate (· - n.span.start)) := by
    refine part.relocate small fun i _ => ?_
    rw [part.span_eq, Nat.add_sub_cancel_left, Nat.zero_add]
  refine ⟨?_, ?_, ⟨b, _, ?_, alone.decodeExact, Node.value_relocate .., rfl⟩, tiled.children.1,
    tiled.children.2, tiled⟩
  · rw [part.span_eq, doc.span_eq]
    simp
  · rw [part.span_eq]
    simp
  · rw [Node.raw?, part.span_eq, whole]
    exact Span.slice?_append _ _ _

/-- A dictionary in a list. -/
theorem decode_placed_nested :
    let source : Bytes := Bytes.ofText "ld1:bi1eee"
    let inner : Node := .dict ⟨1, 9⟩ [([98], .integer ⟨5, 8⟩ 1)]
    let root : Node := .list ⟨0, 10⟩ [inner]
    decode source = .ok root ∧ Occurs inner root ∧
      inner.raw? source = some (Bytes.ofText "d1:bi1ee") ∧
      decodeExact (Bytes.ofText "d1:bi1ee") = .ok (.dict ⟨0, 8⟩ [([98], .integer ⟨4, 7⟩ 1)]) := by
  intro source inner root
  have one : Number [49] 1 := ⟨List.forall_mem_singleton.mpr (by decide), by decide, by decide, rfl⟩
  have entry := @Entry.intro Document 62 2 _ _ _ _ (@ByteString.intro [49] [98] one)
    (@Document.positive 5 62 [49] 1 one)
  have list := @Document.list 0 63 _ _ (.cons (@Document.dict 1 62 _ _ (.cons entry .nil)) .nil)
  have spelled : source = [108, 100, 49, 58, 98, 105, 49, 101, 101, 101] := by decide
  have decoded : decode source = .ok root := by
    rw [spelled]
    exact list.decode_append []
  have occurs : Occurs inner root := .item List.mem_cons_self .self
  have raw : inner.raw? source = some (Bytes.ofText "d1:bi1ee") := rfl
  obtain ⟨part, m, cut, again, -, rfl⟩ := (decode_placed decoded occurs).document
  rw [raw] at cut
  cases cut
  exact ⟨decoded, occurs, raw, again⟩

end Swarm.Bencode
