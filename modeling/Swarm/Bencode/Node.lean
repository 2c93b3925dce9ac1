import Swarm.Bencode.Value
import Swarm.Text.Utf8

/-!
# Decoded documents

A decoded document is a tree that remembers, for every value in it, the stretch of the source that
the value was read from. Forgetting the stretches leaves the value.
-/

namespace Swarm.Bencode

/-- A stretch of a source: from `start` up to, and not including, `stop`. -/
structure Span where
  start : Nat
  stop : Nat
deriving DecidableEq

namespace Span

/-- The bytes of a source that a stretch covers, if it lies inside the source. -/
def slice? (s : Span) (source : Bytes) : Option Bytes :=
  if s.start ≤ s.stop ∧ s.stop ≤ source.length then
    some ((source.drop s.start).take (s.stop - s.start))
  else none

end Span

/-- A value with the stretch it was read from, throughout. -/
inductive Node where
  | integer (span : Span) (n : Int)
  | bytes (span : Span) (b : Bytes)
  | list (span : Span) (items : List Node)
  | dict (span : Span) (entries : List (Bytes × Node))

/-- The four kinds of value. -/
inductive Kind where
  | integer
  | bytes
  | list
  | dict
deriving DecidableEq

/-- The name of a kind in messages. -/
def Kind.name : Kind → String
  | integer => "integer"
  | bytes => "byte string"
  | list => "list"
  | dict => "dictionary"

namespace Node

instance : Inhabited Node := ⟨.integer ⟨0, 0⟩ 0⟩

/-- The stretch that a node was read from. -/
def span : Node → Span
  | .integer s _ | .bytes s _ | .list s _ | .dict s _ => s

/-- The kind of value that a node holds. -/
def kind : Node → Kind
  | .integer .. => .integer
  | .bytes .. => .bytes
  | .list .. => .list
  | .dict .. => .dict

mutual
/-- The value of a node, without the stretches. -/
def value : Node → Value
  | .integer _ n => .integer n
  | .bytes _ b => .bytes b
  | .list _ items => .list (values items)
  | .dict _ entries => .dict (entryValues entries)
/-- The values of a list of nodes. -/
def values : List Node → List Value
  | [] => []
  | n :: ns => value n :: values ns
/-- The keys and values of a list of entries. -/
def entryValues : List (Bytes × Node) → List (Bytes × Value)
  | [] => []
  | (k, n) :: es => (k, value n) :: entryValues es
end

/-- The bytes of the source that a node was read from. -/
def raw? (n : Node) (source : Bytes) : Option Bytes :=
  n.span.slice? source

/-- The number in an integer node. -/
def int? : Node → Option Int
  | .integer _ n => some n
  | _ => none

/-- The content of a byte string node. -/
def bytes? : Node → Option Bytes
  | .bytes _ b => some b
  | _ => none

/-- The content of a byte string node, if it is well-formed text. -/
def text? (n : Node) : Option String :=
  n.bytes?.bind Text.Utf8.text?

/-- The items of a list node. -/
def items? : Node → Option (List Node)
  | .list _ items => some items
  | _ => none

/-- The entries of a dictionary node. -/
def entries? : Node → Option (List (Bytes × Node))
  | .dict _ entries => some entries
  | _ => none

/-- The node under a key: of several, the first. -/
def lookup? (key : Bytes) : Node → Option Node
  | .dict _ entries => (entries.find? fun e => e.1 == key).map (·.2)
  | _ => none

end Node

end Swarm.Bencode
