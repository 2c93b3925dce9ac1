import Swarm.Text.Blank
import Swarm.Text.Numeral

/-!
# Sets of characters

A set of characters is a list of stretches of code points. It is written in hexadecimal, as in
`61-7A B7` for the small letters of ASCII and the middle dot.
-/

namespace Swarm.Text

/-- A stretch of code points; both ends belong to it. -/
structure Stretch where
  first : Nat
  last : Nat
deriving DecidableEq

/-- Reads a stretch: its ends with a hyphen between them, or the one code point that it has. -/
def Stretch.ofText? (cs : List Char) : Option Stretch :=
  match (pieces (· == '-') cs).mapM (Numeral.digits? 16) with
  | some [n] => some ⟨n, n⟩
  | some [first, last] => some ⟨first, last⟩
  | _ => none

/-- A set of characters. -/
structure CharSet where
  /-- The stretches of the code points that belong to it. -/
  stretches : List Stretch

namespace CharSet

/-- The set that a text stands for: stretches with blanks between them. -/
def ofText (s : String) : CharSet := ⟨(words s.toList).filterMap Stretch.ofText?⟩

instance : Membership Char CharSet :=
  ⟨fun s c => ∃ r ∈ s.stretches, r.first ≤ c.toNat ∧ c.toNat ≤ r.last⟩

instance (c : Char) (s : CharSet) : Decidable (c ∈ s) :=
  inferInstanceAs (Decidable (∃ r ∈ s.stretches, r.first ≤ c.toNat ∧ c.toNat ≤ r.last))

/-- A character belongs to a set if one of its stretches reaches over it. -/
theorem mem_iff {c : Char} {s : CharSet} :
    c ∈ s ↔ ∃ r ∈ s.stretches, r.first ≤ c.toNat ∧ c.toNat ≤ r.last :=
  Iff.rfl

end CharSet

end Swarm.Text
