import Swarm.Proofs.Tracker.Http.Heads

/-!
# Replies without carriage returns

A reply whose lines end with bare line feeds. Its head is read up to the first empty line and its body
is what follows, whatever the bytes of the body are, with one exception. An empty line between carriage
returns and line feeds is looked for first, also in the body: if one stands there, the body is what
comes after it.
-/

namespace Swarm.Tracker.Http

open Swarm.Text

/-- The lines of a head with a status and without chunks, none of them empty or broken. -/
structure PlainHead (number : Nat) (status : Bytes) (headers : List Bytes) : Prop where
  code : StatusLine number status
  line : ∀ l ∈ status :: headers, l ≠ [] ∧ '\r'.toUInt8 ∉ l ∧ '\n'.toUInt8 ∉ l
  plain : ∀ l ∈ headers, ¬ AnnouncesChunks l

/-- A reply with a line feed after each line of its head and one more before its body. -/
def bareFeeds (ls : List Bytes) (body : Bytes) : Bytes :=
  ls.flatMap (· ++ ['\n'.toUInt8]) ++ '\n'.toUInt8 :: body

variable {code : Nat} {status body : Bytes} {headers ls : List Bytes}

/-! ## Heads -/

/-- The lines of a head are read as they were written. -/
lemma lines_repaired (line : ∀ l ∈ ls, l ≠ [] ∧ '\r'.toUInt8 ∉ l ∧ '\n'.toUInt8 ∉ l) :
    lines (Utf8.repaired (['\n'.toUInt8].intercalate ls)) = ls.map Utf8.repaired :=
  lines_written (.inl rfl) line

/-- A plain head announces no chunks. -/
lemma PlainHead.not_inChunks (h : PlainHead code status headers) :
    inChunks (['\n'.toUInt8].intercalate (status :: headers)) = false := by
  refine Bool.eq_false_iff.mpr fun chunks => ?_
  obtain ⟨l, inside, announces⟩ := (inChunks_iff (lines_repaired h.line)).mp chunks
  exact h.plain l inside announces

/-- The first empty line between bare line feeds comes after the lines. -/
lemma cut?_bareFeeds (body : Bytes) (nonempty : ls ≠ [])
    (line : ∀ l ∈ ls, l ≠ [] ∧ '\n'.toUInt8 ∉ l) :
    Bytes.cut? emptyLine (bareFeeds ls body) = some (['\n'.toUInt8].intercalate ls, body) :=
  cut?_withHead List.not_mem_nil nonempty line body

/-- An empty line between carriage returns and line feeds is not in the head, so it is where it is in
the body. -/
lemma cut?_crlf_bareFeeds (body : Bytes) (line : ∀ l ∈ ls, '\r'.toUInt8 ∉ l) :
    Bytes.cut? (crlf ++ crlf) (bareFeeds ls body) =
      (Bytes.cut? (crlf ++ crlf) body).map fun p =>
        (ls.flatMap (· ++ ['\n'.toUInt8]) ++ '\n'.toUInt8 :: p.1, p.2) := by
  have noReturn : '\r'.toUInt8 ∉ ls.flatMap (· ++ ['\n'.toUInt8]) ++ ['\n'.toUInt8] := by
    intro inside
    rcases List.mem_append.mp inside with inside | feed
    · obtain ⟨l, there, inside⟩ := List.mem_flatMap.mp inside
      rcases List.mem_append.mp inside with inside | feed
      · exact line l there inside
      · exact absurd feed (by decide)
    · exact absurd feed (by decide)
  rw [bareFeeds, List.append_cons]
  refine (Bytes.cut?_skip noReturn _ body).trans ?_
  simp only [List.append_assoc, List.singleton_append]
  rfl

/-! ## Replies -/

/-- Chunks are no longer than their coding. -/
lemma Chunked.length_flatten {coded : Bytes} {chunks : List Bytes} (h : Chunked coded chunks) :
    chunks.flatten.length ≤ coded.length := by
  induction h with
  | last => exact Nat.zero_le _
  | chunk _ _ _ _ ih =>
    simp only [List.flatten_cons, List.length_append]
    omega

/-- A body that is put together is no longer than what it is put together from. -/
lemma bodyAfter_length {head rest : Bytes} (h : bodyAfter head rest = .ok body) :
    body.length ≤ rest.length := by
  rw [bodyAfter] at h
  split at h
  · obtain ⟨coded, chunks, tail, rfl, chunked, rfl⟩ := joinChunks_eq_ok.mp h
    rw [List.length_append]
    exact chunked.length_flatten.trans (Nat.le_add_right _ _)
  · cases h
    exact le_rfl

/-- A reply whose lines end with bare line feeds has its status read, and its body delivered as it
is, as long as no empty line between carriage returns and line feeds stands in the body. If one
stands there, the body is not delivered: what is taken for it is at least four bytes shorter. -/
theorem ofBytes_bareFeeds (head : PlainHead code status headers) (body : Bytes) :
    (¬ crlf ++ crlf <:+: body →
      Response.ofBytes (bareFeeds (status :: headers) body) =
        .ok ⟨code, Utf8.lossy (['\n'.toUInt8].intercalate (status :: headers)), body⟩) ∧
    (crlf ++ crlf <:+: body →
      ∀ r, Response.ofBytes (bareFeeds (status :: headers) body) = .ok r →
        r.status = code ∧ r.body.length + 4 ≤ body.length) := by
  have marks := cut?_crlf_bareFeeds body fun l inside => (head.line l inside).2.1
  constructor
  · intro unmarked
    rw [Bytes.cut?_eq_none unmarked, Option.map_none] at marks
    have feeds := cut?_bareFeeds body (List.cons_ne_nil status headers) fun l inside =>
      ⟨(head.line l inside).1, (head.line l inside).2.2⟩
    refine ofBytes_of_parts (splitHead?_eq_some.mpr (.inr ⟨marks, feeds⟩)) ?_ ?_
    · rw [lines_repaired head.line]
      exact head.code.statusOf
    · rw [bodyAfter, head.not_inChunks]
      rfl
  · intro marked r taken
    -- the head is cut at the mark inside the body
    obtain ⟨before, after, found⟩ := Bytes.exists_cut? marked
    rw [found, Option.map_some] at marks
    obtain ⟨head', rest, split, coded, assembled⟩ := ofBytes_parts taken
    rw [splitHead?_eq_some.mpr (.inl marks)] at split
    cases split
    obtain ⟨-, noReturn, noFeed⟩ := repaired_line (head.line status List.mem_cons_self)
    constructor
    · -- the first line is still the status line, whatever was added to the head
      rw [List.flatMap_cons, List.append_assoc, List.append_assoc, List.singleton_append,
        Utf8.repaired_append (by decide)] at coded
      change statusOf ((lines (Utf8.repaired status ++
        '\n' :: Utf8.repaired _)).headD []) = _ at coded
      rw [lines_append noFeed, dropReturn_line noReturn, List.headD_cons,
        head.code.statusOf] at coded
      cases coded
      rfl
    · have length : r.body.length ≤ after.length := bodyAfter_length assembled
      have eq := congrArg List.length (Bytes.cut?_eq found)
      simp only [crlf, List.length_append, List.length_cons, List.length_nil] at eq
      omega

/-- A status line and one header make a plain head. -/
lemma plainHead_ok : PlainHead 200 (Bytes.ofText "HTTP/1.0 200 OK") [Bytes.ofText "Server: t"] where
  code := statusLine_ok
  line := by decide +kernel
  plain := List.forall_mem_singleton.mpr (mt announcesChunks_iff.mpr (by decide +kernel))

/-- A peer on the port 6881 at the address 127.0.0.1 is delivered, and at 13.10.13.10 it is not. -/
theorem ofBytes_bareFeeds_peers :
    let lines := [Bytes.ofText "HTTP/1.0 200 OK", Bytes.ofText "Server: t"]
    let body (address : Bytes) := Bytes.ofText "d5:peers6:" ++ address ++ [0x1A, 0xE1, 0x65]
    (¬ crlf ++ crlf <:+: body [127, 0, 0, 1] ∧
      Response.ofBytes (bareFeeds lines (body [127, 0, 0, 1])) =
        .ok ⟨200, "HTTP/1.0 200 OK\nServer: t", body [127, 0, 0, 1]⟩) ∧
    (crlf ++ crlf <:+: body [13, 10, 13, 10] ∧
      ∀ r, Response.ofBytes (bareFeeds lines (body [13, 10, 13, 10])) = .ok r →
        r.status = 200 ∧ r.body.length + 4 ≤ (body [13, 10, 13, 10]).length) := by
  intro lines body
  have unmarked : ¬ crlf ++ crlf <:+: body [127, 0, 0, 1] := by decide +kernel
  have marked : crlf ++ crlf <:+: body [13, 10, 13, 10] := by decide +kernel
  have text : Utf8.lossy (['\n'.toUInt8].intercalate lines) = "HTTP/1.0 200 OK\nServer: t" := by
    decide +kernel
  refine ⟨⟨unmarked, ?_⟩, marked, (ofBytes_bareFeeds plainHead_ok _).2 marked⟩
  rw [← text]
  exact (ofBytes_bareFeeds plainHead_ok _).1 unmarked

/-- At that address the body is what comes after it, and the rest is taken for the head. -/
theorem ofBytes_bareFeeds_not_delivered :
    let lines := [Bytes.ofText "HTTP/1.0 200 OK", Bytes.ofText "Server: t"]
    let body := Bytes.ofText "d5:peers6:" ++ [13, 10, 13, 10, 0x1A, 0xE1, 0x65]
    PlainHead 200 (Bytes.ofText "HTTP/1.0 200 OK") [Bytes.ofText "Server: t"] ∧
      ∃ r, Response.ofBytes (bareFeeds lines body) = .ok r ∧ r.body = [0x1A, 0xE1, 0x65] ∧
        r.body ≠ body := by
  refine ⟨plainHead_ok, ⟨200, "HTTP/1.0 200 OK\nServer: t\n\nd5:peers6:", [0x1A, 0xE1, 0x65]⟩, ?_⟩
  decide +kernel

end Swarm.Tracker.Http
