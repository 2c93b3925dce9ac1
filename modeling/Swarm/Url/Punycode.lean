import Swarm.Text.Blank

/-!
# International labels in ASCII

What follows `xn--` in a label tells the characters of another label. Those of ASCII stand first, up
to the last hyphen. After it stand numbers in digits to base 36, one for each further character in
the order of their code points, that tell how far on from the one before it and its place it goes.
-/

namespace Swarm.Url.Punycode

/-- The value of a digit to base 36. -/
def digit? (c : Char) : Option Nat :=
  if 'a' ≤ c ∧ c ≤ 'z' then some (c.toNat - 97)
  else if '0' ≤ c ∧ c ≤ '9' then some (c.toNat - 22)
  else none

/-- Numbers and the weights of their digits are below this. -/
def limit : Nat := UInt32.size

/-- The state of reading digits. -/
structure State where
  /-- The label so far. -/
  label : List Char
  /-- The code point of the last character that was put in. -/
  code : Nat
  /-- The place after it, plus what the number under way adds. -/
  place : Nat
  /-- The place before the number under way. -/
  origin : Nat
  /-- The weight of the next digit. -/
  weight : Nat
  /-- The position of the next digit, counted in steps of 36. -/
  position : Nat
  /-- What the thresholds of the digits are measured from. -/
  bias : Nat

/-- The state before the first digit. -/
def State.start (label : List Char) : State := ⟨label, 128, 0, 0, 1, 36, 72⟩

/-- The last digit of a number is below its threshold, and no other is. -/
def State.threshold (s : State) : Nat :=
  if s.position ≤ s.bias then 1 else if s.bias + 26 ≤ s.position then 26 else s.position - s.bias

/-- Adapts the bias after a number; `fuel` bounds the number of divisions. -/
def adaptFrom : (fuel k delta : Nat) → Nat
  | 0, k, delta => k + 36 * delta / (delta + 38)
  | fuel + 1, k, delta =>
    if 455 < delta then adaptFrom fuel (k + 36) (delta / 35) else k + 36 * delta / (delta + 38)

/-- The bias after a number. -/
def adapt (delta count : Nat) (first : Bool) : Nat :=
  let delta := if first then delta / 700 else delta / 2
  adaptFrom 16 0 (delta + delta / count)

/-- Puts in the next character at the place that a number told. -/
def State.insert? (s : State) (place : Nat) : Option State :=
  let count := s.label.length + 1
  let code := s.code + place / count
  let index := place % count
  if code.isValidChar then
    let label := s.label.take index ++ .ofNat code :: s.label.drop index
    some ⟨label, code, index + 1, index + 1, 1, 36, adapt (place - s.origin) count (s.origin = 0)⟩
  else none

/-- The state after a digit. -/
def State.next? (s : State) (d : Nat) : Option State :=
  let place := s.place + d * s.weight
  let weight := s.weight * (36 - s.threshold)
  if limit ≤ place then none
  else if d < s.threshold then s.insert? place
  else if limit ≤ weight then none
  else some { s with place, weight, position := s.position + 36 }

/-- Reads digits to the end, where no number may be under way. -/
def run (s : State) : List Char → Option (List Char)
  | [] => if s.position = 36 then some s.label else none
  | c :: cs =>
    match digit? c with
    | some d =>
      match s.next? d with
      | some s => run s cs
      | none => none
    | none => none

/-- The characters that a label without its `xn--` stands for. A hyphen that stands first does not
end the characters of ASCII, and as it is no digit there is nothing that such a label stands for. -/
def decode? (cs : List Char) : Option (List Char) :=
  match (Text.pieces (· == '-') cs).reverse with
  | [] => none
  | [digits] => run (.start []) digits
  | digits :: earlier =>
    match List.intercalate ['-'] earlier.reverse with
    | [] => none
    | basic => run (.start basic) digits

end Swarm.Url.Punycode
