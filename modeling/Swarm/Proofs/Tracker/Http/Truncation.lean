import Swarm.Proofs.Bencode.Acceptance
import Swarm.Proofs.Tracker.Http.Chunks
import Swarm.Tracker.Http.Exchange

/-!
# Truncated replies

A reply over HTTP ends where the connection does, so a connection that breaks leaves a beginning of
the reply. If the head of a whole reply has no empty line in it and its body is one document, no
beginning of it is accepted, unless the body comes in chunks and all of them are there.
-/

namespace Swarm.Tracker.Http

open Swarm.Bencode
open Swarm.Net (Endpoint)
open Swarm.Text

/-- An empty line between bare line feeds. -/
def emptyLine : Bytes := ['\n'.toUInt8, '\n'.toUInt8]

/-- Whether a head announces a body in chunks. -/
def inChunks (head : Bytes) : Bool := (lines (Utf8.repaired head)).tail.any announcesChunks

/-- The body that comes after a head. -/
def bodyAfter (head rest : Bytes) : Except HttpFault Bytes :=
  if inChunks head then joinChunks rest else .ok rest

/-- The parts of a reply whose peers are accepted. -/
structure Accepted (raw head rest body : Bytes) (peers : List Endpoint) : Prop where
  split : splitHead? raw = some (head, rest)
  status : ∃ code, statusOf ((lines (Utf8.repaired head)).headD []) = .ok code ∧
    checkStatus code = .ok ()
  assembled : bodyAfter head rest = .ok body
  decoded : readBody body = .ok peers

variable {raw p more head head' rest rest' body body' : Bytes} {peers peers' : List Endpoint}

/-! ## The parts of a reply -/

/-- A reply that can be taken apart has a head with a status and a body after it. -/
lemma ofBytes_parts {r : Response} (h : Response.ofBytes raw = .ok r) :
    ∃ head rest, splitHead? raw = some (head, rest) ∧
      statusOf ((lines (Utf8.repaired head)).headD []) = .ok r.status ∧
      bodyAfter head rest = .ok r.body := by
  revert h
  fun_cases Response.ofBytes raw with
  | case1 | case2 | case3 => nofun
  | case4 head rest split _ _ code status chunks body joined =>
    rintro ⟨⟩
    exact ⟨head, rest, split, status, (if_pos chunks).trans joined⟩
  | case5 head rest split _ _ code status plain =>
    rintro ⟨⟩
    exact ⟨head, rest, split, status, if_neg plain⟩

/-- A reply is put together from its parts. -/
lemma ofBytes_of_parts {code : Nat} (split : splitHead? raw = some (head, rest))
    (status : statusOf ((lines (Utf8.repaired head)).headD []) = .ok code)
    (assembled : bodyAfter head rest = .ok body) :
    Response.ofBytes raw = .ok ⟨code, String.ofList (Utf8.repaired head), body⟩ := by
  rw [Response.ofBytes, split]
  simp only [status]
  by_cases chunks : inChunks head
  · rw [bodyAfter, if_pos chunks] at assembled
    rw [inChunks] at chunks
    rw [if_pos chunks, assembled]
  · rw [bodyAfter, if_neg chunks] at assembled
    rw [inChunks] at chunks
    rw [if_neg chunks]
    cases assembled
    rfl

/-- A reply is accepted exactly if it has the parts of one. -/
lemma readReply_eq_ok :
    readReply raw = .ok peers ↔ ∃ head rest body, Accepted raw head rest body peers := by
  constructor
  · fun_cases readReply raw with
    | case1 | case2 => nofun
    | case3 r taken success =>
      intro decoded
      obtain ⟨head, rest, split, status, assembled⟩ := ofBytes_parts taken
      exact ⟨head, rest, r.body, split, ⟨r.status, status, success⟩, assembled, decoded⟩
  · rintro ⟨head, rest, body, split, ⟨code, status, success⟩, assembled, decoded⟩
    rw [readReply, ofBytes_of_parts split status assembled]
    simp only [success, decoded]

/-! ## Heads of truncated replies -/

/-- The head ends at the first empty line with carriage returns, or else at the first one without. -/
lemma splitHead?_eq_some :
    splitHead? raw = some (head, rest) ↔
      Bytes.cut? (crlf ++ crlf) raw = some (head, rest) ∨
        Bytes.cut? (crlf ++ crlf) raw = none ∧ Bytes.cut? emptyLine raw = some (head, rest) := by
  rw [splitHead?]
  cases Bytes.cut? (crlf ++ crlf) raw with
  | none => simp [emptyLine]
  | some parts => simp

/-- No empty line ends inside the mark that ends a head. -/
lemma emptyLine_in_head (h : emptyLine <:+: head ++ ['\r'.toUInt8, '\n'.toUInt8, '\r'.toUInt8]) :
    emptyLine <:+: head := by
  -- its last byte would be a line feed, and so would be the one before
  have last {b : Bytes} {x : UInt8} (h : emptyLine <:+ b ++ [x]) :
      x = '\n'.toUInt8 ∧ ['\n'.toUInt8] <:+ b := by
    obtain ⟨before, eq⟩ := h
    rw [emptyLine, ← List.singleton_append, ← List.append_assoc] at eq
    obtain ⟨rfl, same⟩ := List.append_inj' eq rfl
    exact ⟨(List.singleton_inj.mp same).symm, List.suffix_append _ _⟩
  rw [List.append_cons, List.append_cons] at h
  rcases List.infix_concat_iff.mp h with ends | h
  · exact absurd (last ends).1 (by decide)
  rcases List.infix_concat_iff.mp h with ends | h
  · obtain ⟨before, eq⟩ := (last ends).2
    obtain ⟨-, same⟩ := List.append_inj' eq rfl
    exact absurd same (by decide)
  rcases List.infix_concat_iff.mp h with ends | h
  · exact absurd (last ends).1 (by decide)
  · exact h

/-- A beginning of a reply that has a head has the head of the whole reply. -/
lemma splitHead?_append (noEmptyLine : ¬ emptyLine <:+: head)
    (whole : splitHead? (p ++ more) = some (head, rest))
    (split : splitHead? p = some (head', rest')) : head' = head ∧ rest = rest' ++ more := by
  have agree {mark : Bytes} (h : Bytes.cut? mark p = some (head', rest'))
      (h' : Bytes.cut? mark (p ++ more) = some (head, rest)) : head' = head ∧ rest = rest' ++ more := by
    have same := Bytes.cut?_append h more
    rw [h'] at same
    cases same
    exact ⟨rfl, rfl⟩
  -- which of the two marks ends the head can differ only if the cut falls inside a mark
  rcases splitHead?_eq_some.mp split with found | ⟨unmarked, found⟩
  · rcases splitHead?_eq_some.mp whole with found' | ⟨none, -⟩
    · exact agree found found'
    · have found' := Bytes.cut?_append found more
      rw [none] at found'
      cases found'
  · rcases splitHead?_eq_some.mp whole with found' | ⟨-, found'⟩
    · -- the beginning stops inside the mark, so the empty line in it stands in the head
      have early : rest.length < more.length := by
        by_contra late
        obtain ⟨_, there, -⟩ := Bytes.cut?_shorten found' (Nat.le_of_not_lt late)
        rw [unmarked] at there
        cases there
      have eq := Bytes.cut?_eq found'
      have stops : p <+: head ++ ['\r'.toUInt8, '\n'.toUInt8, '\r'.toUInt8] := by
        refine List.prefix_of_prefix_length_le (List.prefix_append p more) ?_ ?_
        · exact ⟨'\n'.toUInt8 :: rest, by rw [eq]; simp [crlf]⟩
        · have length := congrArg List.length eq
          simp only [crlf, List.length_append, List.length_cons, List.length_nil] at length ⊢
          omega
      have inside : emptyLine <:+: p := ⟨head', rest', (Bytes.cut?_eq found).symm⟩
      exact absurd (emptyLine_in_head (inside.trans stops.isInfix)) noEmptyLine
    · exact agree found found'

/-- Bytes can be left out at the end of a reply as long as they come after its head. -/
lemma splitHead?_shorten (whole : splitHead? (p ++ more) = some (head, rest))
    (late : more.length ≤ rest.length) :
    ∃ rest', splitHead? p = some (head, rest') ∧ rest = rest' ++ more := by
  rcases splitHead?_eq_some.mp whole with found | ⟨none, found⟩
  · obtain ⟨rest', found', eq⟩ := Bytes.cut?_shorten found late
    exact ⟨rest', splitHead?_eq_some.mpr (.inl found'), eq⟩
  · obtain ⟨rest', found', eq⟩ := Bytes.cut?_shorten found late
    refine ⟨rest', splitHead?_eq_some.mpr (.inr ⟨?_, found'⟩), eq⟩
    cases h : Bytes.cut? (crlf ++ crlf) p with
    | none => rfl
    | some parts =>
      have there := Bytes.cut?_append h more
      rw [none] at there
      cases there

/-! ## Truncated replies -/

/-- A body that is one document does not begin with another body. -/
lemma eq_nil_of_readBody {n : Node} (document : decodeExact (body ++ more) = .ok n)
    (decoded : readBody body = .ok peers) : more = [] := by
  rw [readBody] at decoded
  cases begins : decode body with
  | error e =>
    rw [begins] at decoded
    cases decoded
  | ok m =>
    obtain ⟨part, later, rfl, doc⟩ := document_of_decode begins
    have whole := document_of_decodeExact document
    have hpart : part <+: part ++ later ++ more := ⟨later ++ more, (List.append_assoc ..).symm⟩
    have eq := (Document.unique hpart List.prefix_rfl doc whole).1
    have length := congrArg List.length eq
    simp only [List.length_append] at length
    exact List.length_eq_zero_iff.mp (by omega)

/-- A reply that yields no peers is refused. -/
lemma refused_of_not_accepted (h : ∀ peers, readReply p ≠ .ok peers) :
    ∃ e, readReply p = .error e := by
  cases read : readReply p with
  | error e => exact ⟨e, rfl⟩
  | ok peers => exact absurd read (h peers)

/-- A reply that lacks bytes at the end of an accepted one is refused unless it has the same head and
is accepted with less behind it. -/
lemma Accepted.refuses (noEmptyLine : ¬ emptyLine <:+: head)
    (whole : Accepted (p ++ more) head rest body peers)
    (part : ∀ rest' body' peers', rest = rest' ++ more →
      ¬ Accepted p head rest' body' peers') :
    ∃ e, readReply p = .error e := by
  refine refused_of_not_accepted fun peers' h => ?_
  obtain ⟨head', rest', body', accepted⟩ := readReply_eq_ok.mp h
  obtain ⟨rfl, rfl⟩ := splitHead?_append noEmptyLine whole.split accepted.split
  exact part rest' body' peers' rfl accepted

/-- Without chunks, a reply that lacks bytes at the end is refused. -/
lemma Accepted.refuses_prefix {n : Node} (noEmptyLine : ¬ emptyLine <:+: head)
    (plain : inChunks head = false) (document : decodeExact body = .ok n)
    (whole : Accepted (p ++ more) head rest body peers) (lacks : more ≠ []) :
    ∃ e, readReply p = .error e := by
  refine whole.refuses noEmptyLine fun rest' body' peers' eq part => ?_
  subst eq
  have assembled := whole.assembled
  have assembled' := part.assembled
  simp only [bodyAfter, plain] at assembled assembled'
  cases assembled
  cases assembled'
  exact lacks (eq_nil_of_readBody document part.decoded)

/-- In chunks, a reply that lacks a part of them is refused. -/
lemma Accepted.refuses_chunks {coded tail : Bytes} {chunks : List Bytes}
    (noEmptyLine : ¬ emptyLine <:+: head) (inside : inChunks head = true)
    (chunked : Chunked coded chunks) (eq : rest = coded ++ tail)
    (whole : Accepted (p ++ more) head rest body peers) (lacks : tail.length < more.length) :
    ∃ e, readReply p = .error e := by
  refine whole.refuses noEmptyLine fun rest' body' peers' eq' part => ?_
  subst eq'
  have assembled := part.assembled
  rw [bodyAfter, if_pos inside] at assembled
  obtain ⟨coded', chunks', tail', rfl, chunked', -⟩ := joinChunks_eq_ok.mp assembled
  rw [List.append_assoc] at eq
  obtain rfl := chunked'.unique chunked eq
  have length := congrArg List.length (List.append_cancel_left eq)
  rw [List.length_append] at length
  omega

/-- In chunks, a reply that has all of them is accepted. -/
lemma Accepted.accepts_chunks {coded tail : Bytes} {chunks : List Bytes}
    (inside : inChunks head = true) (chunked : Chunked coded chunks) (eq : rest = coded ++ tail)
    (joined : chunks.flatten = body) (whole : Accepted (p ++ more) head rest body peers)
    (enough : more.length ≤ tail.length) : readReply p = .ok peers := by
  subst eq
  obtain ⟨rest', split, eq⟩ := splitHead?_shorten whole.split
    (enough.trans (by rw [List.length_append]; exact Nat.le_add_left _ _))
  have length := congrArg List.length eq
  simp only [List.length_append] at length
  obtain ⟨tail', rfl⟩ : coded <+: rest' := by
    refine List.prefix_of_prefix_length_le ⟨tail, rfl⟩ ⟨more, eq.symm⟩ ?_
    omega
  refine readReply_eq_ok.mpr ⟨head, coded ++ tail', body, split, whole.status, ?_, whole.decoded⟩
  rw [bodyAfter, if_pos inside]
  exact joinChunks_eq_ok.mpr ⟨coded, chunks, tail', rfl, chunked, joined⟩

/-- Let a reply be accepted whose head has no empty line in it and whose body is one document. If the
body does not come in chunks, no beginning of the reply but itself is accepted. If it does, a beginning
is refused that ends before the line of the last chunk does, and from there on it yields the same
peers. -/
theorem readReply_truncated {r : Response} {n : Node} (split : splitHead? raw = some (head, rest))
    (noEmptyLine : ¬ emptyLine <:+: head) (taken : Response.ofBytes raw = .ok r)
    (document : decodeExact r.body = .ok n) (accepted : readReply raw = .ok peers) :
    (inChunks head = false → ∀ p, p <+: raw → p ≠ raw → ∃ e, readReply p = .error e) ∧
    (inChunks head = true →
      ∃ coded chunks tail, rest = coded ++ tail ∧ Chunked coded chunks ∧ chunks.flatten = r.body ∧
        ∀ p, p <+: raw →
          (p.length + tail.length < raw.length → ∃ e, readReply p = .error e) ∧
          (raw.length ≤ p.length + tail.length → readReply p = .ok peers)) := by
  obtain ⟨head, rest, body, whole⟩ := readReply_eq_ok.mp accepted
  -- one response is taken from the bytes, so both descriptions of it agree
  cases split.symm.trans whole.split
  obtain ⟨head, rest, split', -, assembled⟩ := ofBytes_parts taken
  cases split.symm.trans split'
  cases whole.assembled.symm.trans assembled
  constructor
  · rintro plain p ⟨more, rfl⟩ ne
    refine whole.refuses_prefix noEmptyLine plain document ?_
    rintro rfl
    exact ne (List.append_nil p).symm
  · intro inside
    rw [bodyAfter, if_pos inside] at assembled
    obtain ⟨coded, chunks, tail, eq, chunked, joined⟩ := joinChunks_eq_ok.mp assembled
    refine ⟨coded, chunks, tail, eq, chunked, joined, ?_⟩
    rintro p ⟨more, rfl⟩
    rw [List.length_append]
    refine ⟨fun short => ?_, fun long => ?_⟩
    · exact whole.refuses_chunks noEmptyLine inside chunked eq (by omega)
    · exact whole.accepts_chunks inside chunked eq joined (by omega)

/-- A reply in two chunks, with a line end after the last size line. -/
theorem readReply_truncated_two_chunks :
    let head := Bytes.ofText "HTTP/1.1 200 OK\r\nTransfer-Encoding: chunked"
    let rest := Bytes.ofText "5\r\nd5:pe\r\n6\r\ners0:e\r\n0\r\n\r\n"
    let raw := head ++ crlf ++ crlf ++ rest
    let r : Response :=
      ⟨200, "HTTP/1.1 200 OK\r\nTransfer-Encoding: chunked", Bytes.ofText "d5:peers0:e"⟩
    splitHead? raw = some (head, rest) ∧ ¬ emptyLine <:+: head ∧ inChunks head = true ∧
      Response.ofBytes raw = .ok r ∧ (∃ n, decodeExact r.body = .ok n) ∧ readReply raw = .ok [] ∧
      ∃ coded chunks tail, rest = coded ++ tail ∧ Chunked coded chunks ∧ chunks.flatten = r.body ∧
        ∀ p, p <+: raw →
          (p.length + tail.length < raw.length → ∃ e, readReply p = .error e) ∧
          (raw.length ≤ p.length + tail.length → readReply p = .ok []) := by
  intro head rest raw r
  have split : splitHead? raw = some (head, rest) := by decide +kernel
  have noEmptyLine : ¬ emptyLine <:+: head := by decide +kernel
  have inside : inChunks head = true := by decide +kernel
  have taken : Response.ofBytes raw = .ok r := by decide +kernel
  have accepted : readReply raw = .ok [] := by decide +kernel
  have five : Number ['5'.toUInt8] 5 :=
    ⟨List.forall_mem_singleton.mpr (by decide), by decide, by decide, rfl⟩
  have entry := @Entry.intro Document 63 1 _ _ _ _
    (@ByteString.intro _ (Bytes.ofText "peers") five) (Document.empty _ _)
  have dict := @Document.dict 0 63 _ _ (.cons entry .nil)
  have spelled : r.body = 'd'.toUInt8 :: (['5'.toUInt8] ++ ':'.toUInt8 :: Bytes.ofText "peers" ++
      ['0'.toUInt8, ':'.toUInt8] ++ []) ++ ['e'.toUInt8] := by decide +kernel
  have document := dict.decodeExact
  rw [← spelled] at document
  exact ⟨split, noEmptyLine, inside, taken, ⟨_, document⟩, accepted,
    (readReply_truncated split noEmptyLine taken document accepted).2 inside⟩

end Swarm.Tracker.Http
