import Mathlib.Data.List.TakeWhile
import Swarm.Bencode.Decoder
import Swarm.Proofs.Bencode.Grammar

/-!
# Walks and readers

A walk is taken apart into its first part and the others. Where only its result matters, and not where
it stops when it fails, it is a reader: what it reads at a cursor, with the cursor after that.
-/

namespace Swarm.Bencode

/-- A way to read something at a cursor. -/
abbrev Reader (α : Type) := Cursor → Except Error (α × Cursor)

variable {α β : Type}

namespace Walk

/-- What a walk reads. -/
def read (w : Walk α) : Reader α := fun c =>
  match w.runAt c with
  | (.ok a, d) => .ok (a, d)
  | (.error e, _) => .error e

/-- What a walk results in is what it reads. -/
lemma read_of_runAt {w : Walk α} {a : α} {c d : Cursor} (h : w.runAt c = (.ok a, d)) :
    w.read c = .ok (a, d) := by
  rw [read, h]

/-- Two walks in a row: the second goes on where the first one succeeds. -/
lemma runAt_bind (w : Walk α) (f : α → Walk β) (c : Cursor) :
    (w >>= f).runAt c =
      match w.runAt c with
      | (.ok a, d) => (f a).runAt d
      | (.error e, d) => (.error e, d) := by
  change (match w.runAt c with | (r, d) => (ExceptT.bindCont f r : StateM Cursor _) d) = _
  rcases w.runAt c with ⟨_ | a, d⟩ <;> rfl

/-- A walk may look at the bytes that are left. -/
lemma runAt_rest_bind (f : Bytes → Walk β) (c : Cursor) :
    (rest >>= f).runAt c = (f c.rest).runAt c := runAt_bind ..

/-- A walk may look at the offset of the next byte. -/
lemma runAt_pos_bind (f : Nat → Walk β) (c : Cursor) :
    (pos >>= f).runAt c = (f c.pos).runAt c := runAt_bind ..

/-- A walk may step over bytes. -/
lemma runAt_skip_bind (count : Nat) (f : Unit → Walk β) (c : Cursor) :
    (skip count >>= f).runAt c = (f ()).runAt (c.advance count) := runAt_bind ..

/-- A walk may stop where it is. -/
lemma runAt_stop (error : Nat → Error) (c : Cursor) :
    (stop error : Walk α).runAt c = (.error (error c.pos), c) := rfl

/-- Two walks in a row read the one part and then the other. -/
lemma read_bind (w : Walk α) (f : α → Walk β) (c : Cursor) :
    (w >>= f).read c = w.read c >>= fun x => (f x.1).read x.2 := by
  rw [read, runAt_bind, read]
  rcases w.runAt c with ⟨_ | a, d⟩ <;> rfl

/-- What is read depends on the bytes that are left. -/
lemma read_rest_bind (f : Bytes → Walk β) (c : Cursor) :
    (rest >>= f).read c = (f c.rest).read c := read_bind ..

/-- What is read depends on the offset of the next byte. -/
lemma read_pos_bind (f : Nat → Walk β) (c : Cursor) :
    (pos >>= f).read c = (f c.pos).read c := read_bind ..

/-- What is read stands behind the bytes that are stepped over. -/
lemma read_skip_bind (count : Nat) (f : Unit → Walk β) (c : Cursor) :
    (skip count >>= f).read c = (f ()).read (c.advance count) := read_bind ..

/-- Nothing is read where a walk stops. -/
lemma read_stop (error : Nat → Error) (c : Cursor) :
    (stop error : Walk α).read c = .error (error c.pos) := rfl

/-- A walk that does nothing reads nothing. -/
lemma read_pure (a : α) (c : Cursor) : (pure a : Walk α).read c = .ok (a, c) := rfl

end Walk

/-- Decoding reads one value. -/
lemma decode_eq (source : Bytes) :
    decode source = ((Walk.value 64).read (.start source)).map (·.1) := by
  rw [decode, Cursor.next, Walk.read, maxDepth]
  rcases (Walk.value 64).runAt (.start source) with ⟨_ | n, c⟩ <;> rfl

/-- Exact decoding reads one value and then looks whether anything is left. -/
lemma decodeExact_eq (source : Bytes) :
    decodeExact source = (Walk.value 64).read (.start source) >>= fun x =>
      if x.2.atEnd then .ok x.1 else .error (.trailingData x.2.pos) := by
  rw [decodeExact, Cursor.next, Walk.read, maxDepth]
  rcases (Walk.value 64).runAt (.start source) with ⟨_ | n, c⟩ <;> rfl

end Swarm.Bencode
