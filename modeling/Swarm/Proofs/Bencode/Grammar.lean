import Mathlib.Data.Nat.Digits.Defs
import Swarm.Bencode.Node

/-!
# The grammar of documents

What a document is, apart from how it is read. A number is a run of 1 to 18 digits. `Document` says
which bytes spell which tree, at which offset they begin, and how many containers may be nested in
one another: a list or a dictionary takes one off the room that is left for what stands in it, and a
scalar takes none.
-/

namespace Swarm.Bencode

/-- The digits `ds` spell the number `n`; they are few enough, and zeros may lead. -/
structure Number (ds : Bytes) (n : Nat) : Prop where
  digit : ∀ d ∈ ds, 0x30 ≤ d ∧ d ≤ 0x39
  nonempty : 1 ≤ ds.length
  short : ds.length ≤ 18
  value : Nat.ofDigits 10 (ds.reverse.map fun d => d.toNat - 0x30) = n

/-- A byte string: its length, a colon, and that many bytes. -/
inductive ByteString : Bytes → Bytes → Prop where
  | intro {ds content} :
    Number ds content.length →
    ByteString (ds ++ ':'.toUInt8 :: content) content

/-- What the bytes of each element spell, one after the other. -/
inductive Sequence {α : Type} (spells : Nat → Nat → Bytes → α → Prop) :
    (pos room : Nat) → Bytes → List α → Prop where
  | nil {pos room} :
    Sequence spells pos room [] []
  | cons {pos room b a bs as} :
    spells pos room b a →
    Sequence spells (pos + b.length) room bs as →
    Sequence spells pos room (b ++ bs) (a :: as)

/-- A key and then a value. -/
inductive Entry (spells : Nat → Nat → Bytes → Node → Prop) :
    (pos room : Nat) → Bytes → Bytes × Node → Prop where
  | intro {room pos k key b n} :
    ByteString k key →
    spells (pos + k.length) room b n →
    Entry spells pos room (k ++ b) (key, n)

/-- The bytes spell the node, if they begin at the offset and there is this much room for
containers. -/
inductive Document : (pos room : Nat) → Bytes → Node → Prop where
  | positive {pos room ds n} :
    Number ds n →
    Document pos room ('i'.toUInt8 :: ds ++ ['e'.toUInt8])
      (.integer ⟨pos, pos + (ds.length + 2)⟩ n)
  | negative {pos room ds n} :
    Number ds n →
    Document pos room ('i'.toUInt8 :: '-'.toUInt8 :: ds ++ ['e'.toUInt8])
      (.integer ⟨pos, pos + (ds.length + 3)⟩ (-n))
  | bytes {pos room b content} :
    ByteString b content →
    Document pos room b (.bytes ⟨pos, pos + b.length⟩ content)
  | list {pos room b ns} :
    Sequence Document (pos + 1) room b ns →
    Document pos (room + 1) ('l'.toUInt8 :: b ++ ['e'.toUInt8])
      (.list ⟨pos, pos + (b.length + 2)⟩ ns)
  | dict {pos room b es} :
    Sequence (Entry Document) (pos + 1) room b es →
    Document pos (room + 1) ('d'.toUInt8 :: b ++ ['e'.toUInt8])
      (.dict ⟨pos, pos + (b.length + 2)⟩ es)

/-- The digit zero spells the number zero. -/
lemma Number.zero : Number ['0'.toUInt8] 0 where
  digit := by
    intro d hd
    rw [List.mem_singleton.mp hd]
    decide
  nonempty := Nat.le_refl 1
  short := by decide
  value := rfl

/-- The empty string has a spelling. -/
lemma ByteString.empty : ByteString ['0'.toUInt8, ':'.toUInt8] [] :=
  @ByteString.intro ['0'.toUInt8] [] .zero

/-- A byte string begins with a digit. -/
lemma ByteString.head {b content} (h : ByteString b content) :
    ∃ d later, b = d :: later ∧ 0x30 ≤ d ∧ d ≤ 0x39 := by
  cases h with
  | @intro ds _ num =>
    cases ds with
    | nil => exact absurd num.nonempty (by simp)
    | cons d ds => exact ⟨d, _, rfl, num.digit d (by simp)⟩

/-- The node of a document covers the whole of it. -/
lemma Document.span_eq {pos room b n} (h : Document pos room b n) :
    n.span = ⟨pos, pos + b.length⟩ := by
  cases h with
  | bytes _ => rfl
  | _ => simp [Node.span]

/-- A document begins with a byte other than the one that ends a container. -/
lemma Document.head {pos room b n} (h : Document pos room b n) :
    ∃ x later, b = x :: later ∧ x ≠ 'e'.toUInt8 := by
  cases h with
  | bytes str =>
    obtain ⟨d, later, eq, _, le⟩ := str.head
    refine ⟨d, later, eq, ?_⟩
    rintro rfl
    exact absurd le (by decide)
  | _ => exact ⟨_, _, rfl, by decide⟩

/-- The empty string is a document at any place. -/
lemma Document.empty (pos room : Nat) :
    Document pos room ['0'.toUInt8, ':'.toUInt8] (.bytes ⟨pos, pos + 2⟩ []) :=
  .bytes .empty

end Swarm.Bencode
