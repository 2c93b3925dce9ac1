import Swarm.Proofs.Tracker.Udp.Reply

/-!
# Replies to announces as they are written

A reply is written in five words, the last two of which declare how many peers follow, and six bytes for
every peer. Main statement: a datagram is read as a reply exactly if it is what is written for this reply
and the number of peers is the declared one, or, where the count is not strict, no larger one.
-/

namespace Swarm.Tracker.Udp

open Swarm.Net (Endpoint)

/-- The datagram that carries a reply: the kind of an announce, the transaction id and the numbers as
big-endian words, and then the peers. -/
def Reply.datagram (r : Reply) (transaction : UInt32) : Bytes :=
  Bytes.word 4 1 ++ Bytes.word 4 transaction.toNat ++
    Bytes.word 4 r.interval.toNat ++ Bytes.word 4 r.leechers.toNat ++
    Bytes.word 4 r.seeders.toNat ++ r.peers.flatMap Endpoint.compact

/-- The number of peers that a reply declares. -/
def Reply.declared (r : Reply) : Nat := r.leechers.toNat + r.seeders.toNat

/-- The peers are as many as declared, or no more where the count is not strict. -/
def Reply.Counts (r : Reply) (strict : Bool) : Prop :=
  if strict then r.peers.length = r.declared else r.peers.length ≤ r.declared

instance (r : Reply) (strict : Bool) : Decidable (r.Counts strict) :=
  inferInstanceAs (Decidable (if strict then _ else _))

variable {d : Bytes} {t : UInt32} {r : Reply} {strict : Bool}

/-- The datagram of a reply reports it. -/
lemma reports_datagram (counts : r.Counts strict) : Reports strict t (r.datagram t) r where
  action := by
    rw [actionOf, Reply.datagram]
    simp only [List.append_assoc]
    rw [List.take_left' (Bytes.length_word ..)]
    exact Bytes.word32_word 1
  transaction := by
    rw [transactionOf, Reply.datagram]
    simp only [List.append_assoc]
    rw [List.drop_left' (Bytes.length_word ..), List.take_left' (Bytes.length_word ..),
      Bytes.word32_word]
  body := by
    simp only [Reply.datagram, List.append_assoc]
    rw [← List.drop_drop (i := 4) (j := 4), List.drop_left' (Bytes.length_word ..),
      List.drop_left' (Bytes.length_word ..)]
  count := counts

/-- What reports a reply is what is written for it. -/
lemma Reports.eq_datagram (reports : Reports strict t d r) : d = r.datagram t := by
  obtain ⟨action, transaction, body, -⟩ := reports
  have long := congrArg List.length body
  simp only [List.length_drop, List.length_append, Bytes.length_word] at long
  have words := Bytes.append_words32 (b := d) (by omega)
  rw [actionOf] at action
  rw [transactionOf] at transaction
  rw [action, transaction, body] at words
  simp only [Reply.datagram, List.append_assoc]
  exact words.symm

/-- A reply is read from its own datagram only. -/
lemma replyOf_eq_ok_iff : replyOf d t strict = .ok r ↔ d = r.datagram t ∧ r.Counts strict := by
  rw [replyOf_eq_ok]
  constructor
  · exact fun reports => ⟨reports.eq_datagram, reports.count⟩
  · rintro ⟨rfl, counts⟩
    exact reports_datagram counts

/-- What counts strictly counts. -/
lemma Reply.Counts.lenient (counts : r.Counts strict) : r.Counts false := by
  cases strict with
  | true => exact Nat.le_of_eq counts
  | false => exact counts

/-- A datagram is read as a reply exactly if it is what is written for this reply and holds as many
peers as it declares, or no more where the count is not strict. The bytes that it is to hold are
counted without wrapping and without being cut off, whatever it declares. So what is read strictly
is read as the same reply where the count is not strict, and no reply ever has more peers than it
declares. -/
theorem replyOf_datagram (d : Bytes) (t : UInt32) :
    (∀ strict r, replyOf d t strict = .ok r ↔ d = r.datagram t ∧ r.Counts strict) ∧
    (∀ leechers seeders,
      declaredLength leechers seeders = (leechers.toNat + seeders.toNat) * 6) ∧
    (∀ r, replyOf d t true = .ok r → replyOf d t false = .ok r) ∧
    (∀ strict r, replyOf d t strict = .ok r → r.peers.length ≤ r.declared) := by
  refine ⟨fun strict r => replyOf_eq_ok_iff, declaredLength_eq, ?_, ?_⟩
  · intro r read
    obtain ⟨eq, counts⟩ := replyOf_eq_ok_iff.mp read
    exact replyOf_eq_ok_iff.mpr ⟨eq, counts.lenient⟩
  · intro strict r read
    exact (replyOf_eq_ok_iff.mp read).2.lenient

/-- Two peers where three are declared are read only where the count is not strict. -/
theorem replyOf_datagram_fewer :
    let r : Reply := ⟨1800, 2, 1, [⟨⟨10, 0, 0, 1⟩, 6881⟩, ⟨⟨10, 0, 0, 2⟩, 6882⟩]⟩
    replyOf (r.datagram 7) 7 false = .ok r ∧ ∀ other, replyOf (r.datagram 7) 7 true ≠ .ok other := by
  intro r
  have lenient : replyOf (r.datagram 7) 7 false = .ok r :=
    ((replyOf_datagram _ 7).1 false r).mpr ⟨rfl, by decide⟩
  refine ⟨lenient, fun other strict => ?_⟩
  have same := (replyOf_datagram _ 7).2.2.1 other strict
  rw [lenient] at same
  cases same
  exact absurd (((replyOf_datagram _ 7).1 true r).mp strict).2 (by decide)

end Swarm.Tracker.Udp
