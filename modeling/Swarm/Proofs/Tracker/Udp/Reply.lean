import Swarm.Proofs.Records
import Swarm.Proofs.Word
import Swarm.Tracker.Udp.Packet

/-!
# What UDP datagrams say

The first word of a reply is its kind and the second one its transaction id. Main statements: the
datagrams that yield a connection id, what a datagram is that yields a reply to an announce, and
that a datagram with another transaction id yields neither, whatever else it holds.
-/

namespace Swarm.Tracker.Udp

/-- The kind that a datagram declares. -/
def actionOf (d : Bytes) : UInt32 := Bytes.word32 (d.take 4)

/-- The transaction id that a datagram carries. -/
def transactionOf (d : Bytes) : UInt32 := Bytes.word32 ((d.drop 4).take 4)

/-- A datagram answers a request to connect, of some transaction id, with a connection id. -/
structure Grants (transaction : UInt32) (d : Bytes) (id : UInt64) : Prop where
  length : 16 ≤ d.length
  action : actionOf d = 0
  transaction : transactionOf d = transaction
  id : (d.drop 8).take 8 = Bytes.word 8 id.toNat

/-- A datagram answers an announce, of some transaction id, with a reply. A strict count is the number
of peers, and one that is not strict bounds it. -/
structure Reports (strict : Bool) (transaction : UInt32) (d : Bytes) (r : Reply) : Prop where
  action : actionOf d = 1
  transaction : transactionOf d = transaction
  body : d.drop 8 = Bytes.word 4 r.interval.toNat ++ (Bytes.word 4 r.leechers.toNat ++
    (Bytes.word 4 r.seeders.toNat ++ r.peers.flatMap Net.Endpoint.compact))
  count : if strict then r.peers.length = r.leechers.toNat + r.seeders.toNat
    else r.peers.length ≤ r.leechers.toNat + r.seeders.toNat

variable {d rest : Bytes} {t : UInt32} {wanted : Action} {least : Nat}

/-! ## Headers -/

/-- Exactly the datagrams that are long enough, of the wanted kind and with the transaction id pass. -/
lemma checkHeader_eq_ok (kind : wanted ≠ .failure) (large : 8 ≤ least) :
    checkHeader d t wanted least = .ok rest ↔
      least ≤ d.length ∧ actionOf d = wanted.word ∧ transactionOf d = t ∧ d.drop 8 = rest := by
  constructor
  · fun_cases checkHeader d t wanted least with
    | case6 _ _ _ _ same _ action =>
      intro passed
      exact ⟨by omega, Classical.not_not.mp action, Classical.not_not.mp same, Except.ok.inj passed⟩
    | _ => nofun
  · rintro ⟨long, action, same, rfl⟩
    have plain : actionOf d ≠ Action.failure.word := by
      rw [action]
      cases wanted with
      | connect | announce => decide
      | failure => exact absurd rfl kind
    rw [checkHeader, if_neg (by omega)]
    change (if transactionOf d ≠ t then _ else if actionOf d = Action.failure.word then _
      else if actionOf d ≠ wanted.word then _ else if d.length < least then _ else _) = _
    rw [if_neg (absurd same), if_neg plain, if_neg (absurd action), if_neg (by omega)]

/-- Another transaction id is refused before anything else is looked at. -/
lemma checkHeader_mismatch (long : 8 ≤ d.length) (other : transactionOf d ≠ t) :
    checkHeader d t wanted least = .error (.transactionMismatch t (transactionOf d)) := by
  rw [checkHeader, if_neg (by omega)]
  exact if_pos other

/-! ## Replies -/

/-- Exactly such a datagram yields a connection id. -/
lemma connectionOf_eq_ok {id : UInt64} : connectionOf d t = .ok id ↔ Grants t d id := by
  have header {rest : Bytes} : checkHeader d t .connect 16 = .ok rest ↔ _ :=
    checkHeader_eq_ok (by nofun) (by decide)
  constructor
  · fun_cases connectionOf d t with
    | case1 => nofun
    | case2 rest passed =>
      obtain ⟨length, action, transaction, rfl⟩ := header.mp passed
      have size : ((d.drop 8).take 8).length = 8 := by
        rw [List.length_take, List.length_drop]
        omega
      rintro ⟨⟩
      exact ⟨length, action, transaction, (Bytes.word_word64 size).symm⟩
  · rintro ⟨length, action, transaction, id⟩
    rw [connectionOf, header.mpr ⟨length, action, transaction, rfl⟩]
    simp only [id, Bytes.word64_word]

/-- What yields a reply has a whole header, of an announce and with the transaction id. -/
lemma replyOf_header {strict : Bool} {reply : Reply} (h : replyOf d t strict = .ok reply) :
    20 ≤ d.length ∧ actionOf d = 1 ∧ transactionOf d = t := by
  revert h
  fun_cases replyOf d t strict with
  | case3 _ passed =>
    obtain ⟨length, action, transaction, -⟩ := (checkHeader_eq_ok (by nofun) (by decide)).mp passed
    exact fun _ => ⟨length, action, transaction⟩
  | _ => nofun

/-- Two 32-bit counts are too small for their sum to wrap, or for the product to be cut off. -/
lemma declaredLength_eq (leechers seeders : UInt32) :
    declaredLength leechers seeders = (leechers.toNat + seeders.toNat) * 6 := by
  have small := leechers.toNat_lt
  have small' := seeders.toNat_lt
  have sum : (leechers.toUInt64 + seeders.toUInt64).toNat = leechers.toNat + seeders.toNat := by
    rw [UInt64.toNat_add, UInt32.toNat_toUInt64, UInt32.toNat_toUInt64]
    exact Nat.mod_eq_of_lt (by omega)
  rw [declaredLength, sum]
  exact Nat.min_eq_left (by simp only [UInt64.size]; omega)

/-- Compact peers take six bytes each. -/
lemma length_flatMap_compact (peers : List Net.Endpoint) :
    (peers.flatMap Net.Endpoint.compact).length = peers.length * 6 := by
  rw [List.length_flatMap, List.map_congr_left fun e _ => Net.Endpoint.length_compact e]
  simp

/-- Three words and what follows them. -/
lemma words_append {body : Bytes} (long : 12 ≤ body.length) :
    body = Bytes.word 4 (Bytes.word32 (body.take 4)).toNat ++
      (Bytes.word 4 (Bytes.word32 ((body.drop 4).take 4)).toNat ++
        (Bytes.word 4 (Bytes.word32 ((body.drop 8).take 4)).toNat ++ body.drop 12)) := by
  have third := Bytes.append_word32 (b := body.drop 8) (by rw [List.length_drop]; omega)
  rw [List.drop_drop] at third
  rw [third]
  exact (Bytes.append_words32 (by omega)).symm

/-- The peers of a reply stand behind its five words. -/
lemma Reports.peers {strict : Bool} {r : Reply} (reports : Reports strict t d r) :
    d.drop 20 = r.peers.flatMap Net.Endpoint.compact := by
  have drop {k n : Nat} {b : Bytes} : (Bytes.word 4 n ++ b).drop (4 + k) = b.drop k := by
    rw [← List.drop_drop, List.drop_left' (Bytes.length_word ..)]
  rw [← List.drop_drop (i := 12) (j := 8), reports.body, drop (k := 8), drop (k := 4),
    drop (k := 0), List.drop_zero]

/-- Exactly such a datagram yields the reply to an announce. -/
theorem replyOf_eq_ok {strict : Bool} {r : Reply} :
    replyOf d t strict = .ok r ↔ Reports strict t d r := by
  have header {rest : Bytes} : checkHeader d t .announce 20 = .ok rest ↔ _ :=
    checkHeader_eq_ok (by nofun) (by decide)
  constructor
  · fun_cases replyOf d t strict with
    | case3 rest passed interval leechers seeders data declared count peers read =>
      obtain ⟨length, action, transaction, rfl⟩ := header.mp passed
      rintro ⟨⟩
      have same : data = peers.flatMap Net.Endpoint.compact := Net.Endpoint.list?_eq_some.mp read
      refine ⟨action, transaction, ?_, ?_⟩
      · rw [← same]
        exact words_append (by rw [List.length_drop]; omega)
      · have exact : declared = _ := declaredLength_eq leechers seeders
        rw [same, length_flatMap_compact, exact] at count
        cases strict with
        | true => exact Nat.eq_of_mul_eq_mul_right (by decide) count
        | false => exact Nat.le_of_mul_le_mul_right count (by decide)
    | _ => nofun
  · rintro ⟨action, transaction, body, count⟩
    have length := congrArg List.length body
    simp only [List.length_drop, List.length_append, Bytes.length_word] at length
    have passed := header.mpr ⟨by omega, action, transaction, body⟩
    have drop {k n : Nat} {b : Bytes} : (Bytes.word 4 n ++ b).drop (4 + k) = b.drop k := by
      rw [← List.drop_drop, List.drop_left' (Bytes.length_word ..)]
    have take {n : Nat} {b : Bytes} : (Bytes.word 4 n ++ b).take 4 = Bytes.word 4 n :=
      List.take_left' (Bytes.length_word ..)
    rw [replyOf, passed]
    simp only [take, drop (k := 0), drop (k := 4), drop (k := 8), List.drop_zero,
      Bytes.word32_word, length_flatMap_compact, declaredLength_eq, Net.Endpoint.list?_eq_some.mpr rfl]
    rw [if_pos]
    cases strict with
    | true => exact congrArg (· * 6) count
    | false => exact Nat.mul_le_mul_right 6 count

/-- With another transaction id, a datagram yields no connection id. -/
lemma connectionOf_mismatch (long : 8 ≤ d.length) (other : transactionOf d ≠ t) :
    connectionOf d t = .error (.transactionMismatch t (transactionOf d)) := by
  rw [connectionOf, checkHeader_mismatch long other]

/-- With another transaction id, a datagram yields no reply. -/
lemma replyOf_mismatch {strict : Bool} (long : 8 ≤ d.length) (other : transactionOf d ≠ t) :
    replyOf d t strict = .error (.transactionMismatch t (transactionOf d)) := by
  rw [replyOf, checkHeader_mismatch long other]

/-- The transaction id of a datagram stands in its bytes from the fourth to the eighth. -/
lemma word_transactionOf (long : 8 ≤ d.length) :
    Bytes.word 4 (transactionOf d).toNat = (d.drop 4).take 4 := by
  refine Bytes.word_word32 ?_
  rw [List.length_take, List.length_drop]
  omega

/-! ## Requests -/

/-- A request to connect has sixteen bytes. -/
@[simp] lemma length_connectRequest : (connectRequest t).length = 16 := by simp [connectRequest]

variable {id : UInt64} {key : UInt32} {a : Announce}

/-- An announce has ninety-eight bytes. -/
@[simp] lemma length_announceRequest : (announceRequest id t key a).length = 98 := by
  simp [announceRequest]

/-- An announce begins with its connection id. -/
lemma take_announceRequest : (announceRequest id t key a).take 8 = Bytes.word 8 id.toNat := by
  simp only [announceRequest, List.append_assoc]
  exact List.take_left' (Bytes.length_word ..)

/-- The transaction id of a request to connect is its last four bytes. -/
lemma transaction_connectRequest : ((connectRequest t).drop 12).take 4 = Bytes.word 4 t.toNat := by
  rw [connectRequest, List.drop_left' (by simp), List.take_of_length_le (by simp)]

/-- The transaction id of an announce stands behind its connection id and its kind. -/
lemma transaction_announceRequest :
    ((announceRequest id t key a).drop 12).take 4 = Bytes.word 4 t.toNat := by
  have header : (Bytes.word 8 id.toNat ++ Bytes.word 4 Action.announce.word.toNat).length = 12 := by
    simp
  rw [announceRequest]
  simp only [List.append_assoc]
  rw [← List.append_assoc, List.drop_left' header]
  exact List.take_left' (Bytes.length_word ..)

end Swarm.Tracker.Udp
