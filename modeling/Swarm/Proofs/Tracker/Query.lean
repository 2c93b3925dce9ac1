import Mathlib.Tactic.IntervalCases
import Swarm.Proofs.Text.Encoding
import Swarm.Proofs.Text.Lines
import Swarm.Proofs.Text.Numerals
import Swarm.Tracker.Announce
import Swarm.Url.Percent

/-!
# Queries of announces

A query is taken apart at its ampersands and equals signs. What then stands after the names gives back
the content of the announce: the byte strings once their percent signs are resolved, the numbers as
decimals. So no two announces have the same query.
-/

namespace Swarm.Tracker

open Swarm.Text
open Swarm.Url (percentDecode percentDecodeFrom encoded?)

/-- A query that tells the eight parameters of an announce. -/
inductive Asks (a : Announce) : (query : List Char) → Prop where
  | intro {query infoHash peerId port uploaded downloaded left} :
    (pieces (· == '&') query).map (pieces (· == '=')) =
      [ ["info_hash".toList, infoHash]
      , ["peer_id".toList, peerId]
      , ["port".toList, port]
      , ["uploaded".toList, uploaded]
      , ["downloaded".toList, downloaded]
      , ["left".toList, left]
      , ["compact".toList, "1".toList]
      , ["event".toList, "started".toList] ] →
    percentDecode infoHash = a.infoHash.bytes →
    percentDecode peerId = a.peerId.bytes →
    Numeral.natural? 10 UInt16.size port = some a.port.toNat →
    Numeral.natural? 10 UInt64.size uploaded = some a.uploaded.toNat →
    Numeral.natural? 10 UInt64.size downloaded = some a.downloaded.toNat →
    Numeral.natural? 10 UInt64.size left = some a.left.toNat →
    Asks a query

/-- The text has neither line ends nor spaces in it. -/
def Unbroken (text : String) : Prop := ∀ c ∈ text.toList, c ∉ ['\r', '\n', ' ']

-- all characters together are finitely many, so the instance must say that only the text is searched
instance (text : String) : Decidable (Unbroken text) :=
  List.decidableBAll (· ∉ ['\r', '\n', ' ']) text.toList

/-- The characters that divide a query or a request. -/
def dividers : List Char := '&' :: '=' :: ['\r', '\n', ' ']

/-- The text has no divider in it. -/
def Undivided (text : String) : Prop := ∀ c ∈ text.toList, c ∉ dividers

instance (text : String) : Decidable (Undivided text) :=
  List.decidableBAll (· ∉ dividers) text.toList

variable {a b : Announce} {query : List Char} {c : Char} {d : Nat} {x : UInt8} {rest : Bytes}

/-- A query tells one announce only. -/
lemma Asks.unique (h : Asks a query) (h' : Asks b query) : a = b := by
  cases h with
  | intro fields infoHash peerId port uploaded downloaded left =>
    cases h' with
    | intro fields' infoHash' peerId' port' uploaded' downloaded' left' =>
      cases fields.symm.trans fields'
      obtain ⟨⟨_, _⟩, ⟨_, _⟩, _, _, _, _⟩ := a
      obtain ⟨⟨_, _⟩, ⟨_, _⟩, _, _, _, _⟩ := b
      cases infoHash.symm.trans infoHash'
      cases peerId.symm.trans peerId'
      cases UInt16.toNat_inj.mp (Option.some.inj (port.symm.trans port'))
      cases UInt64.toNat_inj.mp (Option.some.inj (uploaded.symm.trans uploaded'))
      cases UInt64.toNat_inj.mp (Option.some.inj (downloaded.symm.trans downloaded'))
      cases UInt64.toNat_inj.mp (Option.some.inj (left.symm.trans left'))
      rfl

/-! ## Percent signs -/

/-- A byte that is no percent sign stands for itself. -/
lemma percentDecodeFrom_plain (plain : x ≠ '%'.toUInt8) (done rest : Bytes) :
    percentDecodeFrom done (x :: rest) = percentDecodeFrom (x :: done) rest := by
  match rest with
  | [] => simp [percentDecodeFrom]
  | [_] => simp [percentDecodeFrom]
  | y :: z :: rest =>
    have none : encoded? x y z = none := by
      simp [encoded?, plain]
    rw [percentDecodeFrom, none]

/-- A percent sign and two digits stand for one byte. -/
lemma percentDecodeFrom_encoded {high low : UInt8} (value : encoded? '%'.toUInt8 high low = some x)
    (done rest : Bytes) :
    percentDecodeFrom done ('%'.toUInt8 :: high :: low :: rest) =
      percentDecodeFrom (x :: done) rest := by
  rw [percentDecodeFrom, value]

/-- A hexadecimal digit is one byte and can be read. -/
lemma exists_upperHex (small : d < 16) :
    ∃ x, String.utf8EncodeChar (Announce.upperHex d) = [x] ∧
      Numeral.digit? 16 (Char.ofNat x.toNat) = some d := by
  interval_cases d <;> exact ⟨_, rfl, rfl⟩

/-- What is written for a byte is resolved to this byte. -/
lemma percentDecodeFrom_encodeByte (x : UInt8) (done rest : Bytes) :
    percentDecodeFrom done ((Announce.encodeByte x).flatMap String.utf8EncodeChar ++ rest) =
      percentDecodeFrom (x :: done) rest := by
  rw [Announce.encodeByte]
  -- a byte is either written as it is or as three characters
  split
  · rename_i plain
    simp only [Announce.isPlain, Bool.and_eq_true, decide_eq_true_eq] at plain
    have noSign : x ≠ '%'.toUInt8 := by
      rintro rfl
      exact absurd plain.2 (by decide)
    rw [List.flatMap_singleton, Utf8.utf8EncodeChar_ofNat plain.1]
    exact percentDecodeFrom_plain noSign done rest
  · have small : x.toNat / 16 < 16 := Nat.div_lt_of_lt_mul x.toNat_lt
    obtain ⟨high, written, value⟩ := exists_upperHex small
    obtain ⟨low, written', value'⟩ := exists_upperHex (Nat.mod_lt x.toNat (by decide : 0 < 16))
    have sign : String.utf8EncodeChar '%' = ['%'.toUInt8] := rfl
    have whole : encoded? '%'.toUInt8 high low = some x := by
      have sum : UInt8.ofNat (x.toNat / 16 * 16 + x.toNat % 16) = x := by
        rw [Nat.div_add_mod']
        exact UInt8.ofNat_toNat
      simp only [encoded?, value, value']
      exact congrArg some sum
    simp only [List.flatMap_cons, List.flatMap_nil, sign, written, written', List.append_nil,
      List.cons_append, List.nil_append]
    exact percentDecodeFrom_encoded whole done rest

/-- A byte string that is written with percent signs is read back. -/
theorem percentDecode_encodeBytes (b : Bytes) :
    percentDecode (Announce.encodeBytes b).toList = b := by
  have run (done : Bytes) :
      percentDecodeFrom done ((b.flatMap Announce.encodeByte).flatMap String.utf8EncodeChar) =
        done.reverse ++ b := by
    induction b generalizing done with
    | nil => simp [percentDecodeFrom]
    | cons x b ih =>
      rw [List.flatMap_cons, List.flatMap_append, percentDecodeFrom_encodeByte, ih]
      simp
  rw [percentDecode, Announce.encodeBytes, String.toList_ofList]
  exact run []

/-! ## Fields -/

/-- No letter or digit divides a query. -/
lemma not_divider_of_isAlphanum (h : c.isAlphanum = true) : c ∉ dividers := by
  simp only [dividers, List.mem_cons, List.not_mem_nil, or_false]
  rintro (rfl | rfl | rfl | rfl | rfl) <;> exact absurd h (by decide)

/-- No encoded byte divides a query. -/
lemma not_divider_of_mem_encodeByte (h : c ∈ Announce.encodeByte x) : c ∉ dividers := by
  rw [Announce.encodeByte] at h
  split at h
  · rename_i plain
    cases List.mem_singleton.mp h
    simp only [Announce.isPlain, Bool.and_eq_true, Bool.or_eq_true, beq_iff_eq] at plain
    obtain ⟨-, (((letter | sign) | sign) | sign) | sign⟩ := plain
    · exact not_divider_of_isAlphanum letter
    all_goals
      rw [sign]
      decide
  · have digit {d : Nat} (small : d < 16) : Announce.upperHex d ∉ dividers := by
      interval_cases d <;> decide
    simp only [List.mem_cons, List.not_mem_nil, or_false] at h
    rcases h with rfl | rfl | rfl
    · decide
    · exact digit (Nat.div_lt_of_lt_mul x.toNat_lt)
    · exact digit (Nat.mod_lt _ (by decide))

/-- Encoded bytes do not divide a query. -/
lemma undivided_encodeBytes (b : Bytes) : Undivided (Announce.encodeBytes b) := by
  intro c inside
  rw [Announce.encodeBytes, String.toList_ofList] at inside
  obtain ⟨x, -, written⟩ := List.mem_flatMap.mp inside
  exact not_divider_of_mem_encodeByte written

/-- A number is written in decimal. -/
lemma toList_toString (n : Nat) : (toString n).toList = Numeral.decimal n :=
  String.toList_ofList

/-- A number in decimal does not divide a query. -/
lemma undivided_decimal (n : Nat) : Undivided (toString n) := by
  intro c inside
  rw [toList_toString] at inside
  refine not_divider_of_isAlphanum ?_
  rw [Char.isAlphanum, Numeral.isDigit_of_mem_decimal inside, Bool.or_true]

/-- No divider stands in a name or a value. -/
lemma undivided_of_mem_parameters {p : String × String} (h : p ∈ a.parameters) :
    Undivided p.1 ∧ Undivided p.2 := by
  have names : ∀ name ∈ a.parameters.map Prod.fst, Undivided name := by
    change ∀ name ∈ ["info_hash", "peer_id", "port", "uploaded", "downloaded", "left", "compact",
      "event"], Undivided name
    decide
  refine ⟨names _ (List.mem_map_of_mem h), ?_⟩
  simp only [Announce.parameters, List.mem_cons, List.not_mem_nil, or_false] at h
  rcases h with rfl | rfl | rfl | rfl | rfl | rfl | rfl | rfl
  · exact undivided_encodeBytes _
  · exact undivided_encodeBytes _
  · exact undivided_decimal _
  · exact undivided_decimal _
  · exact undivided_decimal _
  · exact undivided_decimal _
  · change Undivided "1"
    decide
  · change Undivided "started"
    decide

/-- A query consists of names and values, with equals signs and ampersands between them. -/
lemma toList_query (a : Announce) :
    a.query.toList =
      ['&'].intercalate (a.parameters.map fun p => p.1.toList ++ '=' :: p.2.toList) := by
  have field (p : String × String) :
      (p.1 ++ "=" ++ p.2).toList = p.1.toList ++ '=' :: p.2.toList := by simp
  rw [Announce.query, String.toList_intercalate, List.map_map]
  exact congrArg _ (List.map_congr_left fun p _ => field p)

/-- A query holds dividers and what divides nothing. -/
lemma mem_query (h : c ∈ a.query.toList) : c = '&' ∨ c = '=' ∨ c ∉ dividers := by
  rw [toList_query] at h
  rcases mem_intercalate h with mark | ⟨l, field, inside⟩
  · exact .inl mark
  · obtain ⟨p, parameter, rfl⟩ := List.mem_map.mp field
    obtain ⟨name, value⟩ := undivided_of_mem_parameters parameter
    rcases List.mem_append.mp inside with before | after
    · exact .inr (.inr (name c before))
    · rcases List.mem_cons.mp after with mark | after
      · exact .inr (.inl mark)
      · exact .inr (.inr (value c after))

/-- A query is taken apart into its names and values. -/
lemma fields_query (a : Announce) :
    (pieces (· == '&') a.query.toList).map (pieces (· == '=')) =
      a.parameters.map fun p => [p.1.toList, p.2.toList] := by
  have unbroken : ∀ l ∈ a.parameters.map (fun p => p.1.toList ++ '=' :: p.2.toList), '&' ∉ l := by
    refine List.forall_mem_map.mpr fun p inside => ?_
    obtain ⟨name, value⟩ := undivided_of_mem_parameters inside
    simp only [List.mem_append, List.mem_cons, not_or]
    exact ⟨fun h => name _ h (by decide), by decide, fun h => value _ h (by decide)⟩
  rw [toList_query, pieces_intercalate unbroken (List.cons_ne_nil _ _), List.map_map]
  refine List.map_congr_left fun p inside => ?_
  obtain ⟨name, value⟩ := undivided_of_mem_parameters inside
  have whole {cs : List Char} (h : ∀ c ∈ cs, c ∉ dividers) : pieces (· == '=') cs = [cs] :=
    pieces_unmarked fun c mem => beq_false_of_ne fun same => h c mem (same ▸ by decide)
  rw [Function.comp_apply, pieces_append rfl, whole name, whole value, List.singleton_append]

/-- A query is unbroken. -/
lemma unbroken_query (a : Announce) : Unbroken a.query := by
  intro c inside
  rcases mem_query inside with mark | mark | free
  · rw [mark]
    decide
  · rw [mark]
    decide
  · exact fun broken => free (List.mem_cons_of_mem _ (List.mem_cons_of_mem _ broken))

/-- The query of an announce tells this announce. -/
theorem asks_query (a : Announce) : Asks a a.query.toList := by
  have number {n limit : Nat} (small : n < limit) :
      Numeral.natural? 10 limit (toString n).toList = some n := by
    rw [toList_toString]
    exact Numeral.natural?_decimal small
  have fields := fields_query a
  simp only [Announce.parameters, List.map_cons, List.map_nil] at fields
  refine .intro fields ?_ ?_ ?_ ?_ ?_ ?_
  · exact percentDecode_encodeBytes a.infoHash.bytes
  · exact percentDecode_encodeBytes a.peerId.bytes
  · exact number a.port.toNat_lt
  · exact number a.uploaded.toNat_lt
  · exact number a.downloaded.toNat_lt
  · exact number a.left.toNat_lt

/-- Different announces have different queries. -/
lemma query_injective (h : a.query = b.query) : a = b := by
  have same : Asks b a.query.toList := by
    rw [h]
    exact asks_query b
  exact (asks_query a).unique same

end Swarm.Tracker
