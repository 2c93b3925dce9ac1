import Swarm.Ident

/-!
# SHA-1

The hash that names torrents and checks pieces: the message is padded to blocks of sixteen 32-bit
words, each block is spread over eighty words, and eighty rounds fold them into five words of state.
-/

namespace Swarm.Hash.Sha1

/-- The five words of running state. -/
structure State where
  a : UInt32
  b : UInt32
  c : UInt32
  d : UInt32
  e : UInt32

/-- The state before the first block. -/
def State.initial : State :=
  ⟨0x67452301, 0xEFCDAB89, 0x98BADCFE, 0x10325476, 0xC3D2E1F0⟩

/-- Rotates a word to the left. -/
def rotate (x n : UInt32) : UInt32 :=
  (x <<< n) ||| (x >>> (32 - n))

/-- A one bit, zeros up to eight bytes short of a block's end, and the length in bits. -/
def padding (length : Nat) : Bytes :=
  0x80 :: (List.replicate ((119 - length % 64) % 64) 0 ++ Bytes.word 8 (length * 8))

/-- The words of the padded message. -/
def words (message : Bytes) : List UInt32 :=
  ((message ++ padding message.length).chunks 4).map Bytes.word32

/-- Extends the sixteen words of a block to eighty. -/
def schedule (block : Array UInt32) : Array UInt32 :=
  (List.range 64).foldl (fun w i =>
    w.push (rotate (w.getD (i + 13) 0 ^^^ w.getD (i + 8) 0 ^^^ w.getD (i + 2) 0 ^^^ w.getD i 0) 1))
    block

/-- The mixing function and the constant of a round. -/
def mix (round : Nat) (b c d : UInt32) : UInt32 :=
  if round < 20 then ((b &&& c) ||| (~~~b &&& d)) + 0x5A827999
  else if round < 40 then (b ^^^ c ^^^ d) + 0x6ED9EBA1
  else if round < 60 then ((b &&& c) ||| (b &&& d) ||| (c &&& d)) + 0x8F1BBCDC
  else (b ^^^ c ^^^ d) + 0xCA62C1D6

/-- One of the eighty rounds. -/
def round (s : State) (i : Nat) (w : UInt32) : State :=
  ⟨rotate s.a 5 + mix i s.b s.c s.d + s.e + w, s.a, rotate s.b 30, s.c, s.d⟩

/-- Folds one block into the state. -/
def compress (s : State) (block : Array UInt32) : State :=
  let w := schedule block
  let r := (List.range 80).foldl (fun t i => round t i (w.getD i 0)) s
  ⟨s.a + r.a, s.b + r.b, s.c + r.c, s.d + r.d, s.e + r.e⟩

/-- Folds `count` blocks of sixteen words into the state. -/
def absorb (s : State) : (count : Nat) → List UInt32 → State
  | 0, _ => s
  | count + 1, ws => absorb (compress s (ws.take 16).toArray) count (ws.drop 16)

/-- The bytes of the state, word by word. -/
def State.bytes (s : State) : Bytes :=
  [s.a, s.b, s.c, s.d, s.e].flatMap fun w => Bytes.word 4 w.toNat

/-- A digest takes twenty bytes. -/
theorem State.length_bytes (s : State) : s.bytes.length = 20 := by
  simp [State.bytes]

end Swarm.Hash.Sha1

namespace Swarm.Hash

/-- The SHA-1 hash of a message. -/
def sha1 (message : Bytes) : Ident :=
  let ws := Sha1.words message
  let s := Sha1.absorb Sha1.State.initial (ws.length / 16) ws
  ⟨s.bytes, s.length_bytes⟩

end Swarm.Hash
