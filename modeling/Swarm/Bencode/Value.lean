import Swarm.Bytes

/-!
# Bencode values

The four kinds of value that a bencoded document is made of. A dictionary keeps its entries in the
order in which they stand, and keeps entries with the same key.
-/

namespace Swarm.Bencode

/-- A bencode value. -/
inductive Value where
  | integer (n : Int)
  | bytes (b : Bytes)
  | list (items : List Value)
  | dict (entries : List (Bytes × Value))

namespace Value

instance : Inhabited Value := ⟨.integer 0⟩

mutual
/-- Whether two values are the same. -/
def beq : Value → Value → Bool
  | .integer m, .integer n => m == n
  | .bytes b, .bytes c => b == c
  | .list vs, .list ws => beqItems vs ws
  | .dict es, .dict fs => beqEntries es fs
  | _, _ => false
/-- Whether two lists of values are the same. -/
def beqItems : List Value → List Value → Bool
  | [], [] => true
  | v :: vs, w :: ws => beq v w && beqItems vs ws
  | _, _ => false
/-- Whether two lists of entries are the same. -/
def beqEntries : List (Bytes × Value) → List (Bytes × Value) → Bool
  | [], [] => true
  | (k, v) :: es, (l, w) :: fs => k == l && beq v w && beqEntries es fs
  | _, _ => false
end

mutual
/-- Values that the comparison takes for equal are equal. -/
theorem eq_of_beq : (v w : Value) → beq v w = true → v = w
  | .integer m, .integer n, h => by simpa [beq] using h
  | .bytes b, .bytes c, h => by simpa [beq] using h
  | .list vs, .list ws, h => by rw [eq_of_beqItems vs ws (by simpa [beq] using h)]
  | .dict es, .dict fs, h => by rw [eq_of_beqEntries es fs (by simpa [beq] using h)]
  | .integer _, .bytes _, h | .integer _, .list _, h | .integer _, .dict _, h
  | .bytes _, .integer _, h | .bytes _, .list _, h | .bytes _, .dict _, h
  | .list _, .integer _, h | .list _, .bytes _, h | .list _, .dict _, h
  | .dict _, .integer _, h | .dict _, .bytes _, h | .dict _, .list _, h => by simp [beq] at h

/-- Lists that the comparison takes for equal are equal. -/
theorem eq_of_beqItems : (vs ws : List Value) → beqItems vs ws = true → vs = ws
  | [], [], _ => rfl
  | v :: vs, w :: ws, h => by
    simp only [beqItems, Bool.and_eq_true] at h
    rw [eq_of_beq v w h.1, eq_of_beqItems vs ws h.2]
  | [], _ :: _, h | _ :: _, [], h => by simp [beqItems] at h

/-- Entries that the comparison takes for equal are equal. -/
theorem eq_of_beqEntries :
    (es fs : List (Bytes × Value)) → beqEntries es fs = true → es = fs
  | [], [], _ => rfl
  | (k, v) :: es, (l, w) :: fs, h => by
    simp only [beqEntries, Bool.and_eq_true, beq_iff_eq] at h
    rw [h.1.1, eq_of_beq v w h.1.2, eq_of_beqEntries es fs h.2]
  | [], _ :: _, h | _ :: _, [], h => by simp [beqEntries] at h
end

mutual
/-- The comparison takes a value for equal to itself. -/
theorem beq_refl : (v : Value) → beq v v = true
  | .integer n => by simp [beq]
  | .bytes b => by simp [beq]
  | .list vs => by simpa [beq] using beqItems_refl vs
  | .dict es => by simpa [beq] using beqEntries_refl es

/-- The comparison takes a list for equal to itself. -/
theorem beqItems_refl : (vs : List Value) → beqItems vs vs = true
  | [] => rfl
  | v :: vs => by simp [beqItems, beq_refl v, beqItems_refl vs]

/-- The comparison takes entries for equal to themselves. -/
theorem beqEntries_refl : (es : List (Bytes × Value)) → beqEntries es es = true
  | [] => rfl
  | (_, v) :: es => by simp [beqEntries, beq_refl v, beqEntries_refl es]
end

instance : DecidableEq Value := fun v w =>
  if h : beq v w = true then isTrue (eq_of_beq v w h)
  else isFalse fun e => h (e ▸ beq_refl v)

end Value

end Swarm.Bencode
