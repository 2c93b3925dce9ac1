import Mathlib.Tactic.Lemma
import Swarm.Bencode.Node

/-!
# Entries under a key

A dictionary may have several entries under one key, in any place. Looking a key up gives the first of
them, and nothing exactly if there is none.
-/

namespace Swarm.Bencode

/-- Of the entries under a key, this node is in the first one. -/
def First (key : String) (entries : List (Bytes × Node)) (n : Node) : Prop :=
  ∃ before after, entries = before ++ (Bytes.ofText key, n) :: after ∧
    ∀ e ∈ before, e.1 ≠ Bytes.ofText key

/-- No entry is under a key. -/
def Lacks (key : String) (entries : List (Bytes × Node)) : Prop :=
  ∀ e ∈ entries, e.1 ≠ Bytes.ofText key

variable {key : String} {span : Span} {entries : List (Bytes × Node)} {n : Node}

/-- Only in a dictionary something stands under a key. -/
lemma entries?_of_lookup? {root : Node} {key : Bytes} (found : root.lookup? key = some n) :
    ∃ entries, root.entries? = some entries := by
  cases root with
  | dict span entries => exact ⟨entries, rfl⟩
  | _ => cases found

/-- A look-up finds the first entry of a key. -/
lemma lookup?_eq_some :
    (Node.dict span entries).lookup? (Bytes.ofText key) = some n ↔ First key entries n := by
  rw [Node.lookup?, Option.map_eq_some_iff]
  constructor
  · rintro ⟨⟨k, n⟩, found, rfl⟩
    obtain ⟨same, before, after, eq, other⟩ := List.find?_eq_some_iff_append.mp found
    cases eq_of_beq same
    exact ⟨before, after, eq, fun e inside => by simpa using other e inside⟩
  · rintro ⟨before, after, eq, other⟩
    refine ⟨_, List.find?_eq_some_iff_append.mpr ⟨beq_self_eq_true _, before, after, eq, ?_⟩, rfl⟩
    exact fun e inside => by simpa using other e inside

/-- A look-up finds nothing where the key is missing. -/
lemma lookup?_eq_none :
    (Node.dict span entries).lookup? (Bytes.ofText key) = none ↔ Lacks key entries := by
  rw [Node.lookup?, Option.map_eq_none_iff, List.find?_eq_none]
  simp only [beq_iff_eq]
  rfl

end Swarm.Bencode
