import Swarm.Bytes

/-!
# Malformed documents

Why a document cannot be decoded, and at which offset decoding stopped.
-/

namespace Swarm.Bencode

/-- Most digits that a number may have. -/
def maxDigits : Nat := 18

/-- Most containers that may be nested in one another. -/
def maxDepth : Nat := 64

/-- What a byte was expected to belong to. -/
inductive Part where
  | value
  | list
  | dict
  | integerEnd
  | lengthEnd
deriving DecidableEq

/-- The name of a part that the input ended in. -/
def Part.name : Part → String
  | value => "a value"
  | list => "a list"
  | dict => "a dictionary"
  | integerEnd => "integer terminator 'e'"
  | lengthEnd => "':' after string length"

/-- The name of a part that another byte stands in place of. -/
def Part.wanted : Part → String
  | value => "a value ('i', 'l', 'd' or a digit)"
  | p => p.name

/-- Why decoding stopped. The first argument is the offset in the source. -/
inductive Error where
  /-- The input ends inside a part. -/
  | unexpectedEnd (offset : Nat) (part : Part)
  /-- A byte cannot begin or end a part. -/
  | unexpectedByte (offset : Nat) (byte : UInt8) (part : Part)
  /-- A number has no digits. -/
  | emptyNumber (offset : Nat)
  /-- A number has too many digits. -/
  | tooManyDigits (offset : Nat)
  /-- A string is longer than what is left. -/
  | shortString (offset declared available : Nat)
  /-- A key does not begin with a digit. -/
  | invalidKey (offset : Nat) (byte : UInt8)
  /-- A container stands inside too many others. -/
  | nestingTooDeep (offset : Nat)
  /-- Bytes follow the document. -/
  | trailingData (offset : Nat)
deriving DecidableEq

namespace Error

/-- The offset at which decoding stopped. -/
def offset : Error → Nat
  | unexpectedEnd o _ | unexpectedByte o _ _ | emptyNumber o | tooManyDigits o
  | shortString o _ _ | invalidKey o _ | nestingTooDeep o | trailingData o => o

/-- A byte in quotes, a question mark if it cannot be shown, and in hexadecimal. -/
def shown (byte : UInt8) : String :=
  let n := byte.toNat
  let c := if 0x21 ≤ n ∧ n ≤ 0x7E then Char.ofNat n else '?'
  let digit (d : Nat) : Char := (Nat.digitChar d).toUpper
  s!"'{c}' (0x{digit (n / 16)}{digit (n % 16)})"

/-- The report of an error. -/
def message : Error → String
  | unexpectedEnd o p => s!"unexpected end of input at offset {o} while parsing {p.name}"
  | unexpectedByte o b p => s!"unexpected byte {shown b} at offset {o}, expected {p.wanted}"
  | emptyNumber o => s!"expected a number at offset {o}"
  | tooManyDigits o => s!"number at offset {o} exceeds {maxDigits} digits"
  | shortString o declared available =>
    s!"string at offset {o} declares {declared} bytes but only {available} remain"
  | invalidKey o b => s!"dictionary key at offset {o} must be a byte string, found {shown b}"
  | nestingTooDeep o => s!"nesting deeper than {maxDepth} levels at offset {o}"
  | trailingData o => s!"trailing data at offset {o}"

end Error

end Swarm.Bencode
