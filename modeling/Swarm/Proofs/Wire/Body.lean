import Swarm.Proofs.Wire.Framing

/-!
# What bodies say

Which bodies are well-formed, and which of them choke, unchoke or bring a block. Only a have, a
request, a cancellation and a piece can be malformed; the other ids take any payload.
-/

namespace Swarm.Wire

/-- The payload has a size that fits the id; a keep-alive has neither. -/
def WellFormed : Bytes → Prop
  | [] => True
  | id :: payload =>
    (id = 4 → payload.length = 4) ∧ (id = 6 ∨ id = 8 → payload.length = 12) ∧
      (id = 7 → 8 ≤ payload.length)

/-- The body of a block for a place in a piece. -/
def pieceBody (index start : UInt32) (block : Bytes) : Bytes :=
  7 :: Bytes.word 4 index.toNat ++ Bytes.word 4 start.toNat ++ block

/-- A byte is read as the kind that it stands for. -/
lemma MessageId.ofByte?_eq_some {b : UInt8} {k : MessageId} (h : ofByte? b = some k) :
    b = k.byte := by
  have eq := List.find?_some h
  exact (beq_iff_eq.mp eq).symm

/-- A byte that is not read stands for no kind. -/
lemma MessageId.ofByte?_eq_none {b : UInt8} (h : ofByte? b = none) (k : MessageId) :
    b ≠ k.byte := by
  rintro rfl
  rw [ofByte?_byte] at h
  cases h

/-- Three words in a row are read if they fill the payload. -/
lemma sized_triple {body p : Bytes} (make : UInt32 → UInt32 → UInt32 → Message)
    (hw : WellFormed body ↔ p.length = 12)
    (hr : readBody body = (Message.ofTriple? make p).mapError .malformed) :
    (WellFormed body ∧ ∃ m, readBody body = .ok m) ∨
      (¬ WellFormed body ∧ ∃ m, readBody body = .error (.malformed m)) := by
  rw [hr, hw, Message.ofTriple?]
  by_cases len : p.length = 12
  · rw [if_pos len]
    exact .inl ⟨len, _, rfl⟩
  · rw [if_neg len]
    exact .inr ⟨len, _, rfl⟩

/-- A body is read as a message if it is well-formed, and is malformed otherwise. -/
theorem readBody_cases (body : Bytes) :
    (WellFormed body ∧ ∃ m, readBody body = .ok m) ∨
      (¬ WellFormed body ∧ ∃ m, readBody body = .error (.malformed m)) := by
  cases body with
  | nil => exact .inl ⟨trivial, _, rfl⟩
  | cons id payload =>
    cases h : MessageId.ofByte? id with
    | none =>
      have ne := MessageId.ofByte?_eq_none h
      refine .inl ⟨⟨?_, ?_, ?_⟩, _, by simp only [readBody, Message.ofPayload, h]; rfl⟩
      · exact fun eq => absurd eq (ne .have)
      · rintro (eq | eq)
        · exact absurd eq (ne .request)
        · exact absurd eq (ne .cancel)
      · exact fun eq => absurd eq (ne .piece)
    | some k =>
      obtain rfl := MessageId.ofByte?_eq_some h
      cases k with
      | «have» =>
        by_cases len : payload.length = 4
        · refine .inl ⟨by simp [WellFormed, MessageId.byte, len], .have (Bytes.word32 payload), ?_⟩
          exact congrArg (Except.mapError _) (if_pos len)
        · refine .inr ⟨by simp [WellFormed, MessageId.byte, len], ⟨.have, payload.length⟩, ?_⟩
          exact congrArg (Except.mapError _) (if_neg len)
      | request => exact sized_triple .request (by simp [WellFormed, MessageId.byte]) rfl
      | cancel => exact sized_triple .cancel (by simp [WellFormed, MessageId.byte]) rfl
      | piece =>
        by_cases short : payload.length < 8
        · refine .inr ⟨by simp [WellFormed, MessageId.byte, short], ⟨.piece, payload.length⟩, ?_⟩
          exact congrArg (Except.mapError _) (if_pos short)
        · have fits : WellFormed (MessageId.piece.byte :: payload) := by
            simp [WellFormed, MessageId.byte, Nat.not_lt.mp short]
          refine .inl ⟨fits, .piece (Bytes.word32 (payload.take 4))
            (Bytes.word32 ((payload.drop 4).take 4)) (payload.drop 8), ?_⟩
          exact congrArg (Except.mapError _) (if_neg short)
      | _ => exact .inl ⟨by simp [WellFormed, MessageId.byte], _, rfl⟩

/-- A message has the id of its body. -/
theorem id?_of_readBody {body : Bytes} {m : Message} (h : readBody body = .ok m) :
    m.id? = body.head? := by
  cases body with
  | nil =>
    cases h
    rfl
  | cons id payload =>
    cases hk : MessageId.ofByte? id with
    | none =>
      simp only [readBody, Message.ofPayload, hk] at h
      cases h
      rfl
    | some k =>
      obtain rfl := MessageId.ofByte?_eq_some hk
      simp only [readBody, Message.ofPayload, hk] at h
      cases k with
      | «have» | request | cancel =>
        simp only [Message.ofTriple?] at h
        split at h
        · cases h
          rfl
        · cases h
      | piece =>
        dsimp only at h
        split at h
        · cases h
        · cases h
          rfl
      | _ =>
        cases h
        rfl

/-- A body with the first byte 0 is a CHOKE, whatever follows. -/
lemma readBody_eq_choke {body : Bytes} : readBody body = .ok .choke ↔ body.head? = some 0 := by
  constructor
  · exact fun h => (id?_of_readBody h).symm
  · intro h
    obtain ⟨payload, rfl⟩ := List.head?_eq_some_iff.mp h
    rfl

/-- A body with the first byte 1 is an UNCHOKE, whatever follows. -/
lemma readBody_eq_unchoke {body : Bytes} : readBody body = .ok .unchoke ↔ body.head? = some 1 := by
  constructor
  · exact fun h => (id?_of_readBody h).symm
  · intro h
    obtain ⟨payload, rfl⟩ := List.head?_eq_some_iff.mp h
    rfl

/-- A body with the first byte 5 is a BITFIELD of what follows. -/
lemma readBody_eq_bitfield {body b : Bytes} :
    readBody body = .ok (.bitfield b) ↔ body = 5 :: b := by
  constructor
  · intro h
    obtain ⟨payload, rfl⟩ := List.head?_eq_some_iff.mp (id?_of_readBody h).symm
    cases h
    rfl
  · rintro rfl
    rfl

/-- Only the empty body is a keep-alive. -/
lemma readBody_eq_keepAlive {body : Bytes} : readBody body = .ok .keepAlive ↔ body = [] := by
  constructor
  · exact fun h => List.head?_eq_none_iff.mp (id?_of_readBody h).symm
  · rintro rfl
    rfl

/-- The body is a message, and not a keep-alive. -/
def Speaks (body : Bytes) : Prop := WellFormed body ∧ body ≠ []

/-- The body chokes. -/
def Chokes (body : Bytes) : Prop := body.head? = some 0

/-- The body unchokes. -/
def Unchokes (body : Bytes) : Prop := body.head? = some 1

/-- A body that unchokes speaks. -/
lemma Unchokes.speaks {body : Bytes} (h : Unchokes body) : Speaks body := by
  obtain ⟨payload, rfl⟩ := List.head?_eq_some_iff.mp h
  exact ⟨by simp [WellFormed], by simp⟩

/-- A body that does not unchoke is no UNCHOKE. -/
lemma ne_unchoke {body : Bytes} {m : Message} (other : ¬ Unchokes body)
    (h : readBody body = .ok m) : m ≠ .unchoke := by
  rintro rfl
  exact other (readBody_eq_unchoke.mp h)

/-- A body that speaks is a message and no keep-alive. -/
lemma Speaks.read {body : Bytes} (h : Speaks body) :
    ∃ m, readBody body = .ok m ∧ m ≠ .keepAlive := by
  obtain ⟨fine, something⟩ := h
  cases readBody_cases body with
  | inl read =>
    obtain ⟨-, m, hm⟩ := read
    refine ⟨m, hm, ?_⟩
    rintro rfl
    exact something (readBody_eq_keepAlive.mp hm)
  | inr broken => exact absurd fine broken.1

/-- What does not speak is a keep-alive or malformed. -/
lemma read_of_not_speaks {body : Bytes} (h : ¬ Speaks body) :
    readBody body = .ok .keepAlive ∨ ∃ m, readBody body = .error (.malformed m) := by
  cases readBody_cases body with
  | inl read =>
    by_cases empty : body = []
    · exact .inl (readBody_eq_keepAlive.mpr empty)
    · exact absurd ⟨read.1, empty⟩ h
  | inr broken => exact .inr broken.2

/-- A body with the first byte 7 is a PIECE, if it has an index and an offset. -/
lemma readBody_piece (p : Bytes) :
    readBody (7 :: p) =
      if p.length < 8 then .error (.malformed ⟨.piece, p.length⟩)
      else .ok (.piece (Bytes.word32 (p.take 4)) (Bytes.word32 ((p.drop 4).take 4))
        (p.drop 8)) := by
  change Except.mapError _ (if _ then _ else _) = _
  split <;> rfl

/-- The body of a PIECE is read back. -/
lemma readBody_pieceBody (index start : UInt32) (block : Bytes) :
    readBody (pieceBody index start block) = .ok (.piece index start block) := by
  have word (n : UInt32) : (Bytes.word 4 n.toNat).length = 4 := Bytes.length_word 4 _
  rw [pieceBody, List.cons_append, List.cons_append, readBody_piece, if_neg (by simp; omega),
    List.append_assoc, List.take_left' (word index), List.drop_left' (word index),
    List.take_left' (word start), Bytes.word32_word, Bytes.word32_word]
  have rest : (Bytes.word 4 index.toNat ++ (Bytes.word 4 start.toNat ++ block)).drop 8 = block := by
    rw [← List.append_assoc]
    exact List.drop_left' (by rw [List.length_append, word, word])
  rw [rest]

/-- Only the body of a block brings it. -/
lemma eq_pieceBody {body : Bytes} {index start : UInt32} {block : Bytes}
    (h : readBody body = .ok (.piece index start block)) : body = pieceBody index start block := by
  obtain ⟨p, rfl⟩ := List.head?_eq_some_iff.mp (id?_of_readBody h).symm
  have read := readBody_piece p
  rw [show MessageId.piece.byte = 7 from rfl] at h ⊢
  rw [h] at read
  split at read
  · cases read
  · rename_i long
    cases read
    rw [pieceBody, List.cons_append, List.cons_append, List.append_assoc,
      Bytes.append_words32 (by omega)]

end Swarm.Wire
