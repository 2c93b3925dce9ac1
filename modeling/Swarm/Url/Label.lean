import Swarm.Text.Composition
import Swarm.Text.Direction
import Swarm.Text.Joining
import Swarm.Url.LabelChar
import Swarm.Url.Punycode

/-!
# Labels of domain names

A domain name is a list of labels. A label that begins with `xn--` stands for one with characters
beyond ASCII, and both must be proper. If a name has letters that are written from right to left,
each of its labels keeps to one direction.
-/

namespace Swarm.Url.Label

open Swarm.Text

/-- The most characters that may follow `xn--`. -/
def maxEncoded : Nat := 2000

/-- The most characters that a label with characters beyond ASCII may have. -/
def maxLength : Nat := 1000

/-- Whether a joiner or a non-joiner may stand between two texts, the first of them in reverse. Both
may stand after a virama, and the latter also between letters that join. -/
def joinerMayStand (c : Char) (before after : List Char) : Bool :=
  before.head?.any isVirama
    || (c == nonJoiner && (before.dropWhile isTransparent).head?.any joinsAfter
      && (after.dropWhile isTransparent).head?.any joinsBefore)

/-- Whether joiners and non-joiners stand only where they may; `before` holds what was read, in
reverse. -/
def joinersStand (before : List Char) : List Char → Bool
  | [] => true
  | c :: cs =>
    ((c != joiner && c != nonJoiner) || joinerMayStand c before cs) && joinersStand (c :: before) cs

/-- Whether a label with characters beyond ASCII is proper. -/
def isProper (cs : List Char) : Bool :=
  cs.length ≤ maxLength && cs.all mayStandInLabel && !cs.head?.any isMark && joinersStand [] cs
    && isComposed cs

/-- The label that a lowercase label of ASCII stands for. -/
def read? : List Char → Option (List Char)
  | 'x' :: 'n' :: '-' :: '-' :: cs =>
    if cs = [] ∨ cs.getLast? = some '-' ∨ maxEncoded < cs.length then none
    else (Punycode.decode? cs).filter isProper
  | cs => some cs

/-- Whether a label keeps to one direction. Numbers and signs go with either, but a label neither
begins with one nor ends with a sign, and one that is written from right to left does not mix both
kinds of numbers. Marks at the end count as part of what they follow. -/
def keepsDirection (ds : List Direction) : Bool :=
  let last? := (ds.reverse.dropWhile (· = .mark)).head?
  match ds.head? with
  | none => true
  | some .left =>
    ds.all (fun d => d ≠ .right ∧ d ≠ .arabicNumber)
      && last?.any fun d => d = .left ∨ d = .europeanNumber
  | some .right =>
    ds.all (· ≠ .left) && last?.any (· ≠ .neutral)
      && !(.europeanNumber ∈ ds && .arabicNumber ∈ ds)
  | some _ => false

/-- Whether the labels of a name keep to one direction each, where the name has letters or numbers
that are written from right to left. -/
def keepDirections (ls : List (List Char)) : Bool :=
  let ds := ls.map (·.map direction)
  !ds.any (·.any fun d => d = .right ∨ d = .arabicNumber) || ds.all keepsDirection

/-- Whether labels in lowercase ASCII make up a proper name. -/
def areProper (ls : List (List Char)) : Bool :=
  match ls.mapM read? with
  | some ls => keepDirections ls
  | none => false

end Swarm.Url.Label
