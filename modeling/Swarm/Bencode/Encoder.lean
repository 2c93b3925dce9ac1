import Swarm.Bencode.Value
import Swarm.Text.Numeral

/-!
# Encoding

The written form of a value: numbers without leading zeros, and the entries of a dictionary in the
order in which it holds them.
-/

namespace Swarm.Bencode

/-- The decimal digits of a number, as bytes. -/
def decimal (n : Nat) : Bytes :=
  (Text.Numeral.decimal n).map Char.toUInt8

/-- A byte string after its length and a colon. -/
def encodeString (b : Bytes) : Bytes :=
  decimal b.length ++ ':'.toUInt8 :: b

/-- A number, with a minus sign if it is negative, between `i` and `e`. -/
def encodeInteger (n : Int) : Bytes :=
  'i'.toUInt8 :: ((if n < 0 then ['-'.toUInt8] else []) ++ decimal n.natAbs ++ ['e'.toUInt8])

mutual
/-- The written form of a value. -/
def encode : Value → Bytes
  | .integer n => encodeInteger n
  | .bytes b => encodeString b
  | .list items => 'l'.toUInt8 :: (encodeItems items ++ ['e'.toUInt8])
  | .dict entries => 'd'.toUInt8 :: (encodeEntries entries ++ ['e'.toUInt8])
/-- The written forms of values, one after another. -/
def encodeItems : List Value → Bytes
  | [] => []
  | v :: vs => encode v ++ encodeItems vs
/-- The written forms of entries, key before value, one after another. -/
def encodeEntries : List (Bytes × Value) → Bytes
  | [] => []
  | (k, v) :: es => encodeString k ++ encode v ++ encodeEntries es
end

end Swarm.Bencode
