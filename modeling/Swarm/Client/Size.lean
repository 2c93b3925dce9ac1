import Swarm.Time.Duration

/-!
# Amounts in words

A number of bytes in the largest binary unit that it fills, up to tebibytes, and a time in seconds, each
with two decimal places. Both are rounded to 53 significant bits first. All roundings go to the nearest
value, and a half goes to the even neighbour.
-/

namespace Swarm.Client

open Swarm.Time (Duration)

/-- A quotient rounded to the nearest whole number, a half to the even neighbour. -/
def nearest (n d : Nat) : Nat :=
  let q := n / d
  let r := n % d
  if 2 * r < d ∨ (2 * r = d ∧ q % 2 = 0) then q else q + 1

/-- A quotient rounded to so many significant bits, or to a whole number where this is finer. -/
def significant (bits n d : Nat) : Nat :=
  let step := 1 <<< ((n / d).log2 + 1 - bits)
  nearest n (d * step) * step

/-- The units above the byte, each 1024 times the one before. -/
def units : List String := ["KiB", "MiB", "GiB", "TiB"]

/-- The unit in which a number is shown, with its size, from a smaller unit on. -/
def unitFrom (n : Nat) (name : String) (size : Nat) : List String → String × Nat
  | [] => (name, size)
  | larger :: rest =>
    if size * 1024 ≤ n then unitFrom n larger (size * 1024) rest else (name, size)

/-- A number of hundredths with a point. -/
def hundredths (n : Nat) : String :=
  s!"{n / 100}.{n % 100 / 10}{n % 10}"

/-- A number of bytes in words. -/
def sizeText (n : Nat) : String :=
  let shown := significant 53 n 1
  let (name, size) := unitFrom shown "B" 1 units
  if size = 1 then s!"{n} B" else s!"{hundredths (nearest (shown * 100) size)} {name}"

/-- The grains of a second. Its whole multiples hold every number of 53 significant bits from a
billionth on. -/
def grain : Nat := 1 <<< 82

/-- A duration in grains: the whole seconds and the rest, each rounded, and their sum rounded. -/
def grains (d : Duration) : Nat :=
  let whole := significant 53 d.secs 1 * grain
  let rest := significant 53 (d.subsec * grain) 1000000000
  significant 53 (whole + rest) 1

/-- A duration in seconds. -/
def secondsText (d : Duration) : String :=
  hundredths (nearest (grains d * 100) grain)

end Swarm.Client
