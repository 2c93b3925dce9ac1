/-!
# Numerals

Numbers as they stand in headers and on the command line: one or more digits after at most one sign,
with any number of leading zeros, and refused where they do not fit.
-/

namespace Swarm.Text.Numeral

/-- The value of a digit in bases up to sixteen. -/
def digit? (base : Nat) (c : Char) : Option Nat :=
  let n := c.toNat
  let d :=
    if '0' ≤ c ∧ c ≤ '9' then n - 48
    else if 'a' ≤ c ∧ c ≤ 'f' then n - 87
    else if 'A' ≤ c ∧ c ≤ 'F' then n - 55
    else base
  if d < base then some d else none

/-- The value of digits, the most significant first, after those that gave `n`. -/
def digitsFrom? (base n : Nat) : List Char → Option Nat
  | [] => some n
  | c :: cs =>
    match digit? base c with
    | some d => digitsFrom? base (n * base + d) cs
    | none => none

/-- The value of one or more digits. -/
def digits? (base : Nat) : List Char → Option Nat
  | [] => none
  | cs => digitsFrom? base 0 cs

/-- Reads a number below `limit`; a plus sign may stand before it. -/
def natural? (base limit : Nat) (cs : List Char) : Option Nat :=
  let ds := match cs with
    | '+' :: rest => rest
    | _ => cs
  (digits? base ds).filter (· < limit)

/-- Reads a number below `limit`; a plus sign may stand before it, and a minus sign before zero. -/
def ranged? (limit : Nat) (cs : List Char) : Option Nat :=
  match cs with
  | '-' :: rest => (digits? 10 rest).filter (· = 0)
  | _ => natural? 10 limit cs

/-- The decimal digits of a number. -/
def decimal (n : Nat) : List Char :=
  Nat.toDigits 10 n

end Swarm.Text.Numeral
