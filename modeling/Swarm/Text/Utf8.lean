import Swarm.Bytes

/-!
# Text in bytes

Reading UTF-8, strictly or with repair. One step reads a character or passes over an ill-formed
sequence: the longest beginning of a well-formed character, and at least one byte. Strict reading
refuses such a sequence; repair writes one replacement character for it.
-/

namespace Swarm.Text.Utf8

/-- What the lead byte of a character of several bytes fixes. -/
structure Lead where
  /-- How many bytes follow. -/
  follow : Nat
  /-- The least byte that may come second. -/
  low : UInt8
  /-- The greatest byte that may come second. -/
  high : UInt8
  /-- The bits that the lead byte carries. -/
  bits : Nat

/-- Reads a lead byte; the bounds on the second byte exclude overlong forms, surrogates and what
lies above the last code point. -/
def Lead.ofByte? (b : UInt8) : Option Lead :=
  let n := b.toNat
  if n < 0xC2 then none
  else if n < 0xE0 then some ⟨1, 0x80, 0xBF, n - 0xC0⟩
  else if n = 0xE0 then some ⟨2, 0xA0, 0xBF, 0⟩
  else if n = 0xED then some ⟨2, 0x80, 0x9F, 0xD⟩
  else if n < 0xF0 then some ⟨2, 0x80, 0xBF, n - 0xE0⟩
  else if n = 0xF0 then some ⟨3, 0x90, 0xBF, 0⟩
  else if n < 0xF4 then some ⟨3, 0x80, 0xBF, n - 0xF0⟩
  else if n = 0xF4 then some ⟨3, 0x80, 0x8F, 4⟩
  else none

/-- Reads the bytes that follow a lead byte; the next one lies between `low` and `high`, the later
ones anywhere in the range of following bytes. The answer is the character, or nothing where the
sequence breaks off, and the bytes not read. -/
def following : (count : Nat) → (low high : UInt8) → (bits : Nat) → Bytes → Option Char × Bytes
  | 0, _, _, bits, rest => (some (Char.ofNat bits), rest)
  | _ + 1, _, _, _, [] => (none, [])
  | count + 1, low, high, bits, b :: rest =>
    if low ≤ b ∧ b ≤ high then
      following count 0x80 0xBF (bits * 64 + b.toNat % 64) rest
    else
      (none, b :: rest)

/-- One step after a first byte: a character or an ill-formed sequence, and the bytes not read. -/
def step (first : UInt8) (rest : Bytes) : Option Char × Bytes :=
  if first < 0x80 then (some (Char.ofNat first.toNat), rest)
  else
    match Lead.ofByte? first with
    | none => (none, rest)
    | some lead => following lead.follow lead.low lead.high lead.bits rest

/-- All steps through a byte string, the results so far kept in reverse. A byte of `fuel` a step is
enough, since each step reads at least one. -/
def stepsFrom (done : List (Option Char)) : (fuel : Bytes) → Bytes → List (Option Char)
  | _ :: fuel, first :: rest =>
    let (c, rest) := step first rest
    stepsFrom (c :: done) fuel rest
  | _, _ => done.reverse

/-- The characters and ill-formed sequences of a byte string, in order. -/
def steps (b : Bytes) : List (Option Char) :=
  stepsFrom [] b b

/-- The characters of a byte string, one replacement character for each ill-formed sequence. -/
def repaired (b : Bytes) : List Char :=
  (steps b).map fun c => c.getD '\uFFFD'

/-- The text of a byte string, with ill-formed sequences replaced. -/
def lossy (b : Bytes) : String :=
  String.ofList (repaired b)

/-- The text of a byte string that is well-formed throughout. -/
def text? (b : Bytes) : Option String :=
  let cs := steps b
  if cs.all Option.isSome then some (String.ofList (cs.filterMap id)) else none

end Swarm.Text.Utf8
