import Mathlib.Tactic.IntervalCases
import Swarm.Proofs.Wire.Readings

/-!
# Messages as frames

A message that fits a frame is read back from it, and so are messages in a row, whatever follows them.
The other way round, a frame that is read is the one that its message is written as, unless it carries
a payload after one of the four ids that stand alone: that payload is dropped.
-/

namespace Swarm.Wire
open Swarm.Net (Ending Stream)

namespace Message

/-- The body of a message: its id, if it has one, and what follows it. -/
def body (m : Message) : Bytes := m.id?.toList ++ m.payload

/-- The message can be written: its length is counted without overflow and is within the limit, and
no id of another message is used for one without a meaning. -/
structure Writable (m : Message) : Prop where
  counted : m.body.length < 2 ^ 32
  small : m.length.toNat ≤ maxFrame
  foreign : ∀ id payload, m = .other id payload → 9 ≤ id

end Message

/-- There is a payload after an id that stands alone. -/
def Padded (body : Bytes) : Prop := ∃ id payload, body = id :: payload ∧ id ≤ 3 ∧ payload ≠ []

variable {m : Message} {body : Bytes} {x y : Stream}

/-! ## Writing -/

/-- The length that is declared is that of the body, unless it is too large to be counted. -/
lemma Message.toNat_length (counted : m.body.length < 2 ^ 32) :
    m.length.toNat = m.body.length := by
  cases m with
  | bitfield bits | other id bits =>
    have one : bits.length + 1 < 2 ^ 32 := counted
    show (1 + UInt32.ofNat bits.length).toNat = bits.length + 1
    rw [UInt32.toNat_add, UInt32.toNat_ofNat', UInt32.toNat_one]
    omega
  | piece i s block =>
    have words : (Message.piece i s block).body.length = block.length + 9 := by
      simp only [body, payload, id?, Option.toList_some, List.length_append, List.length_cons,
        Bytes.length_word, List.length_nil]
      omega
    rw [words] at counted ⊢
    show (9 + UInt32.ofNat block.length).toNat = block.length + 9
    have nine : (9 : UInt32).toNat = 9 := rfl
    rw [UInt32.toNat_add, UInt32.toNat_ofNat', nine]
    omega
  | _ => rfl

/-- A message is written as the frame of its body. -/
lemma Message.frame_eq (counted : m.body.length < 2 ^ 32) : m.frame = framed m.body := by
  rw [frame, framed, toNat_length counted, body, List.append_assoc]

/-! ## Reading what was written -/

/-- The bytes from nine on stand for no kind. -/
lemma ofByte?_foreign {id : UInt8} (h : 9 ≤ id) : MessageId.ofByte? id = none := by
  cases found : MessageId.ofByte? id with
  | none => rfl
  | some k =>
    obtain rfl := MessageId.ofByte?_eq_some found
    cases k <;> exact absurd h (by decide)

/-- Three words are read back. -/
lemma ofTriple?_triple (make : UInt32 → UInt32 → UInt32 → Message) (index start length : UInt32) :
    Message.ofTriple? make (Message.triple index start length) = .ok (make index start length) := by
  have word (n : UInt32) : (Bytes.word 4 n.toNat).length = 4 := Bytes.length_word 4 _
  have all : (Message.triple index start length).length = 12 := by
    simp [Message.triple, word]
  have third : (Message.triple index start length).drop 8 = Bytes.word 4 length.toNat :=
    List.drop_left' (by rw [List.length_append, word, word])
  rw [Message.ofTriple?, if_pos all, third, Message.triple, List.append_assoc,
    List.take_left' (word index), List.drop_left' (word index), List.take_left' (word start),
    Bytes.word32_word, Bytes.word32_word, Bytes.word32_word]

/-- A body is read by its first byte. -/
lemma readBody_cons {id : UInt8} {payload : Bytes} :
    readBody (id :: payload) = .ok m ↔ Message.ofPayload id payload = .ok m := by
  rw [readBody]
  cases Message.ofPayload id payload with
  | error e =>
    constructor
    · intro h
      cases h
    · intro h
      cases h
  | ok m' =>
    constructor
    · intro h
      cases h
      rfl
    · intro h
      cases h
      rfl

/-- Four bytes after the first make a HAVE. -/
lemma ofPayload_have {payload : Bytes} (four : payload.length = 4) :
    Message.ofPayload 4 payload = .ok (.have (Bytes.word32 payload)) := if_pos four

/-- The body of a message is read as that message. -/
theorem readBody_body (foreign : ∀ id payload, m = .other id payload → 9 ≤ id) :
    readBody m.body = .ok m := by
  cases m with
  | «have» p =>
    apply readBody_cons.mpr
    have read := ofPayload_have (Bytes.length_word 4 p.toNat)
    rwa [Bytes.word32_word] at read
  | request i s l =>
    apply readBody_cons.mpr
    exact ofTriple?_triple .request i s l
  | cancel i s l =>
    apply readBody_cons.mpr
    exact ofTriple?_triple .cancel i s l
  | piece i s block => exact readBody_pieceBody i s block
  | other id payload =>
    apply readBody_cons.mpr
    show Message.ofPayload id payload = .ok (.other id payload)
    rw [Message.ofPayload, ofByte?_foreign (foreign id payload rfl)]
  | _ => rfl

/-- A message that can be written is read back from its frame. -/
lemma Message.Writable.readFrame (h : m.Writable) (rest : Bytes) (ending : Ending) :
    readFrame ⟨m.frame ++ rest, ending⟩ = (.ok m, ⟨rest, ending⟩) := by
  have fits : m.body.length ≤ maxFrame := by
    rw [← toNat_length h.counted]
    exact h.small
  rw [frame_eq h.counted, readFrame_framed fits, readBody_body h.foreign]

/-- Messages in a row are read one after the other, and what follows them is left. -/
theorem readings_frames {ms : List Message} (h : ∀ m ∈ ms, m.Writable) (tail : Bytes)
    (ending : Ending) :
    Readings ⟨ms.flatMap Message.frame ++ tail, ending⟩ (ms.map .ok) ⟨tail, ending⟩ := by
  induction ms with
  | nil => exact .nil
  | cons m ms ih =>
    obtain ⟨first, others⟩ := List.forall_mem_cons.mp h
    have one := Readings.single ⟨m.frame ++ (ms.flatMap Message.frame ++ tail), ending⟩
    rw [first.readFrame] at one
    rw [List.flatMap_cons, List.append_assoc]
    exact one.trans (ih others)

/-! ## Writing what was read -/

/-- What is read as three words consists of them. -/
lemma triple_ofTriple? {make : UInt32 → UInt32 → UInt32 → Message} {p : Bytes}
    (h : Message.ofTriple? make p = .ok m) :
    ∃ index start length, m = make index start length ∧ p = Message.triple index start length := by
  rw [Message.ofTriple?] at h
  split at h
  · rename_i all
    cases h
    have third : (p.drop 8).length = 4 := by rw [List.length_drop]; omega
    refine ⟨_, _, _, rfl, ?_⟩
    rw [Message.triple, Bytes.word_word32 third, List.append_assoc, Bytes.append_words32 (by omega)]
  · cases h

/-- The ids that stand alone are those of the four messages without a payload. -/
lemma exists_alone {id : UInt8} (small : id ≤ 3) : ∃ k : MessageId, id = k.byte := by
  have le : id.toNat ≤ 3 := UInt8.le_iff_toNat_le.mp small
  have eq : id = UInt8.ofNat id.toNat := UInt8.ofNat_toNat.symm
  interval_cases id.toNat
  · exact ⟨.choke, eq⟩
  · exact ⟨.unchoke, eq⟩
  · exact ⟨.interested, eq⟩
  · exact ⟨.notInterested, eq⟩

/-- Only four kinds of message can be padded. -/
lemma not_padded {id : UInt8} {payload : Bytes} (large : ¬ id ≤ 3) : ¬ Padded (id :: payload) := by
  rintro ⟨_, _, eq, small, -⟩
  cases eq
  exact large small

/-- Nothing but its id is written of a message that stands alone. -/
lemma alone_cases {id : UInt8} (small : id ≤ 3) (payload : Bytes) :
    ([id] = id :: payload ∧ ¬ Padded (id :: payload)) ∨ Padded (id :: payload) := by
  by_cases alone : payload = []
  · subst alone
    refine .inl ⟨rfl, ?_⟩
    rintro ⟨_, _, eq, -, something⟩
    cases eq
    exact something rfl
  · exact .inr ⟨id, payload, rfl, small, alone⟩

/-- A body that is read is that of its message, unless it is padded: then only its id is. -/
theorem body_cases (h : readBody body = .ok m) :
    (m.body = body ∧ ¬ Padded body) ∨ (m.body = body.take 1 ∧ Padded body) := by
  cases body with
  | nil =>
    cases h
    exact .inl ⟨rfl, by rintro ⟨_, _, eq, -⟩; cases eq⟩
  | cons id payload =>
    replace h := readBody_cons.mp h
    cases found : MessageId.ofByte? id with
    | none =>
      rw [Message.ofPayload, found] at h
      cases h
      refine .inl ⟨rfl, not_padded fun small => ?_⟩
      obtain ⟨k, rfl⟩ := exists_alone small
      exact MessageId.ofByte?_eq_none found k rfl
    | some k =>
      obtain rfl := MessageId.ofByte?_eq_some found
      rw [Message.ofPayload, found] at h
      cases k with
      | choke | unchoke | interested | notInterested =>
        cases h
        exact (alone_cases (by decide) payload).imp_right fun padded => ⟨rfl, padded⟩
      | «have» =>
        dsimp only at h
        split at h
        · rename_i four
          cases h
          refine .inl ⟨?_, not_padded (by decide)⟩
          exact congrArg _ (Bytes.word_word32 four)
        · cases h
      | bitfield =>
        cases h
        exact .inl ⟨rfl, not_padded (by decide)⟩
      | request | cancel =>
        obtain ⟨index, start, length, rfl, rfl⟩ := triple_ofTriple? h
        exact .inl ⟨rfl, not_padded (by decide)⟩
      | piece =>
        dsimp only at h
        split at h
        · cases h
        · rename_i long
          have read := readBody_piece payload
          rw [if_neg long] at read
          cases h
          exact .inl ⟨(eq_pieceBody read).symm, not_padded (by decide)⟩

/-- What is written of a message is no longer than what it was read from. -/
lemma length_body_le (h : readBody body = .ok m) : m.body.length ≤ body.length := by
  rcases body_cases h with ⟨eq, -⟩ | ⟨eq, -⟩
  · rw [eq]
  · rw [eq, List.length_take]
    exact Nat.min_le_right 1 _

/-- A body is that of the message it is read as exactly if it is not padded. -/
lemma body_eq_iff (h : readBody body = .ok m) : m.body = body ↔ ¬ Padded body := by
  rcases body_cases h with ⟨eq, unpadded⟩ | ⟨eq, padded⟩
  · exact iff_of_true eq unpadded
  · refine iff_of_false (fun same => ?_) (not_not_intro padded)
    obtain ⟨id, payload, rfl, -, something⟩ := padded
    rw [same] at eq
    exact something (List.cons.inj eq).2

/-- A frame that is read as a message is the frame of that message, unless it is padded. -/
theorem frame_eq_iff (h : readFrame x = (.ok m, y)) :
    ∃ body, x = ⟨framed body ++ y.unread, y.ending⟩ ∧ (m.frame = framed body ↔ ¬ Padded body) := by
  have complete : Complete (readFrame x).1 := by
    rw [h]
    exact complete_ok m
  obtain ⟨body, fits, eq, stream⟩ := readFrame_complete complete
  rw [h] at eq stream
  have read : readBody body = .ok m := eq.symm
  have counted : m.body.length < 2 ^ 32 := by
    have le := length_body_le read
    have limit : maxFrame < 2 ^ 32 := by decide
    omega
  refine ⟨body, stream, ?_⟩
  rw [Message.frame_eq counted, framed_inj]
  exact body_eq_iff read

/-! ## Both directions -/

/-- Messages that can be written are read back from their frames in order, and what follows the frames
is left. The other way round, the bytes that are taken off a stream for a message are the frame of that
message exactly if they do not hold a payload after an id that stands alone. -/
theorem frames_messages :
    (∀ (ms : List Message) (tail : Bytes) (ending : Ending), (∀ m ∈ ms, m.Writable) →
      Readings ⟨ms.flatMap Message.frame ++ tail, ending⟩ (ms.map .ok) ⟨tail, ending⟩) ∧
    ∀ (x y : Stream) (m : Message), readFrame x = (.ok m, y) →
      ∃ body, x = ⟨framed body ++ y.unread, y.ending⟩ ∧
        (m.frame = framed body ↔ ¬ Padded body) := by
  constructor
  · intro ms tail ending writable
    exact readings_frames writable tail ending
  · intro x y m read
    exact frame_eq_iff read

/-- A keep-alive, a piece and a message without a meaning are read back with two bytes left after
them; an unchoke with a payload is not written as it was read. -/
theorem frames_messages_padded :
    let ms : List Message := [.keepAlive, .piece 2 16 [0x64, 0x61], .other 20 [0xAB, 0xCD]]
    let x : Stream := ⟨[0, 0, 0, 2, 1, 7, 9], .closed⟩
    (∀ m ∈ ms, m.Writable) ∧
      Readings ⟨ms.flatMap Message.frame ++ [0, 0], .closed⟩ (ms.map .ok) ⟨[0, 0], .closed⟩ ∧
      readFrame x = (.ok .unchoke, ⟨[9], .closed⟩) ∧
      ∃ body, x = ⟨framed body ++ [9], .closed⟩ ∧
        (Message.unchoke.frame = framed body ↔ ¬ Padded body) := by
  intro ms x
  have writable : ∀ m ∈ ms, m.Writable := by
    refine List.forall_mem_cons.mpr ⟨⟨by decide, by decide, nofun⟩, ?_⟩
    refine List.forall_mem_cons.mpr ⟨⟨by decide, by decide, nofun⟩, ?_⟩
    refine List.forall_mem_singleton.mpr ⟨by decide, by decide, ?_⟩
    rintro id payload eq
    cases eq
    decide
  have fits : ([1, 7] : Bytes).length ≤ maxFrame := by decide
  have read : readFrame x = (.ok .unchoke, ⟨[9], .closed⟩) := readFrame_framed fits [9] .closed
  exact ⟨writable, frames_messages.1 ms [0, 0] .closed writable, read, frames_messages.2 x _ _ read⟩

end Swarm.Wire
