/-!
# Byte strings

Byte strings are lists of bytes. This module holds what every binary format here shares: the bytes
of a text, big-endian words of any width, and the first place where a mark occurs.
-/

namespace Swarm

/-- A byte string. -/
abbrev Bytes := List UInt8

namespace Bytes

/-- The UTF-8 bytes of a text. -/
def ofText (text : String) : Bytes :=
  text.toList.flatMap String.utf8EncodeChar

/-- The low `width` bytes of a number, the most significant first. -/
def word : (width : Nat) → Nat → Bytes
  | 0, _ => []
  | width + 1, n => word width (n / 256) ++ [UInt8.ofNat n]

/-- The number that a byte string spells in base 256, the most significant byte first. -/
def number (b : Bytes) : Nat :=
  b.foldl (fun n x => n * 256 + x.toNat) 0

/-- A word takes as many bytes as it is wide. -/
@[simp] theorem length_word (width n : Nat) : (word width n).length = width := by
  induction width generalizing n with
  | zero => rfl
  | succ width ih => simp [word, ih]

/-- No bytes spell zero. -/
@[simp] theorem number_nil : number [] = 0 := rfl

/-- One more byte at the end adds a digit to the base 256. -/
@[simp] theorem number_concat (b : Bytes) (x : UInt8) :
    number (b ++ [x]) = number b * 256 + x.toNat := by
  simp [number]

/-- Scans for `mark`, with the bytes already passed kept in reverse. -/
def cutFrom (mark passed : Bytes) : Bytes → Option (Bytes × Bytes)
  | [] => if mark.isEmpty then some (passed.reverse, []) else none
  | x :: rest =>
    if mark.isPrefixOf (x :: rest) then
      some (passed.reverse, (x :: rest).drop mark.length)
    else
      cutFrom mark (x :: passed) rest

/-- What stands before and after the first occurrence of `mark`. -/
def cut? (mark b : Bytes) : Option (Bytes × Bytes) :=
  cutFrom mark [] b

/-- Takes `count` pieces of `size` bytes off the front, those already taken kept in reverse. -/
def chunksFrom (size : Nat) (taken : List Bytes) : (count : Nat) → Bytes → List Bytes
  | 0, _ => taken.reverse
  | count + 1, b => chunksFrom size (b.take size :: taken) count (b.drop size)

/-- The whole pieces of `size` bytes that a byte string holds, in order. -/
def chunks (size : Nat) (b : Bytes) : List Bytes :=
  chunksFrom size [] (b.length / size) b

/-- The big-endian 16-bit word that a byte string spells. -/
def word16 (b : Bytes) : UInt16 := UInt16.ofNat b.number

/-- The big-endian 32-bit word that a byte string spells. -/
def word32 (b : Bytes) : UInt32 := UInt32.ofNat b.number

/-- The big-endian 64-bit word that a byte string spells. -/
def word64 (b : Bytes) : UInt64 := UInt64.ofNat b.number

/-- The lowercase hexadecimal digit of a half byte. -/
def hexDigit (n : Nat) : Char :=
  Nat.digitChar n

/-- Two lowercase hexadecimal digits a byte. -/
def hex (b : Bytes) : String :=
  String.ofList (b.flatMap fun x => [hexDigit (x.toNat / 16), hexDigit (x.toNat % 16)])

end Bytes

end Swarm
