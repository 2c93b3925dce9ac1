import Swarm.Proofs.Bencode.Reading

/-!
# What is accepted

Decoding accepts exactly what the grammar derives. Since a reader that fits a grammar accepts what is
spelled whatever follows, no document is the beginning of another one.
-/

namespace Swarm.Bencode

/-- A document is decoded, whatever follows it. -/
lemma Document.decode_append {p n} (doc : Document 0 64 p n) (more : Bytes) :
    decode (p ++ more) = .ok n := by
  rw [decode_eq, Cursor.start, (reads_value 64).accepts doc]
  rfl

/-- What is decoded is a document at the beginning of the source. -/
lemma document_of_decode {source n} (h : decode source = .ok n) :
    ∃ p more, source = p ++ more ∧ Document 0 64 p n := by
  rw [decode_eq] at h
  cases hx : (Walk.value 64).read (.start source) with
  | error e =>
    rw [hx] at h
    cases h
  | ok x =>
    rw [hx] at h
    cases h
    obtain ⟨p, eq, -, doc⟩ := (reads_value 64).sound hx
    exact ⟨p, x.2.rest, eq, doc⟩

/-- A document is decoded exactly. -/
lemma Document.decodeExact {p n} (doc : Document 0 64 p n) : decodeExact p = .ok n := by
  have read := (reads_value 64).accepts doc []
  rw [List.append_nil] at read
  rw [decodeExact_eq, Cursor.start, read]
  rfl

/-- What is decoded exactly is a document. -/
lemma document_of_decodeExact {source n} (h : decodeExact source = .ok n) :
    Document 0 64 source n := by
  rw [decodeExact_eq] at h
  cases hx : (Walk.value 64).read (.start source) with
  | error e =>
    rw [hx] at h
    cases h
  | ok x =>
    obtain ⟨m, c⟩ := x
    obtain ⟨p, eq, -, doc⟩ := (reads_value 64).sound hx
    rw [hx] at h
    simp only [bind, Except.bind] at h
    split at h
    · rename_i atEnd
      cases h
      have rest : c.rest = [] := List.isEmpty_iff.mp atEnd
      have whole : source = p := by rw [← List.append_nil p, ← rest]; exact eq
      exact whole ▸ doc
    · cases h

/-- Of the beginnings of a source one at most is a document, and of one node only. -/
lemma Document.unique {source p q n m} (hp : p <+: source) (hq : q <+: source)
    (doc : Document 0 64 p n) (doc' : Document 0 64 q m) : p = q ∧ n = m := by
  obtain ⟨more, rfl⟩ := hp
  obtain ⟨more', eq⟩ := hq
  have read := (reads_value 64).accepts doc more
  rw [← eq, (reads_value 64).accepts doc' more'] at read
  simp only [Except.ok.injEq, Prod.mk.injEq, Cursor.mk.injEq] at read
  obtain ⟨rfl, rfl, -⟩ := read
  exact ⟨(List.append_cancel_right eq).symm, rfl⟩

/-- Decoding accepts the sources that begin with a document, and answers with its node, which covers
it; exact decoding accepts the documents. At most one beginning of a source is a document, so more
bytes change nothing, and nothing short of an accepted document is accepted. -/
theorem decode_grammar (source : Bytes) :
    (∀ n, decode source = .ok n ↔
      ∃ p, p <+: source ∧ Document 0 64 p n ∧ n.span = ⟨0, p.length⟩) ∧
    (∀ n, decodeExact source = .ok n ↔ Document 0 64 source n) ∧
    (∀ p q n m, p <+: source → q <+: source → Document 0 64 p n → Document 0 64 q m →
      p = q ∧ n = m) ∧
    (∀ n more, decode source = .ok n → decode (source ++ more) = .ok n) ∧
    (∀ n p, decodeExact source = .ok n → p <+: source → p ≠ source →
      (∃ e, decode p = .error e) ∧ ∃ e, decodeExact p = .error e) := by
  refine ⟨fun n => ⟨?_, ?_⟩, fun n => ⟨?_, ?_⟩, ?_, ?_, ?_⟩
  · intro h
    obtain ⟨p, more, rfl, doc⟩ := document_of_decode h
    refine ⟨p, List.prefix_append p more, doc, ?_⟩
    simpa using doc.span_eq
  · rintro ⟨p, ⟨more, rfl⟩, doc, -⟩
    exact doc.decode_append more
  · exact document_of_decodeExact
  · exact Document.decodeExact
  · intro p q n m hp hq
    exact Document.unique hp hq
  · intro n more h
    obtain ⟨p, rest, rfl, doc⟩ := document_of_decode h
    rw [List.append_assoc]
    exact doc.decode_append _
  · intro n p h hp ne
    have doc := document_of_decodeExact h
    -- any document that `p` begins with would be the whole source
    have none : ∀ m q, q <+: p → ¬ Document 0 64 q m := by
      intro m q hq doc'
      have eq := (Document.unique (hq.trans hp) List.prefix_rfl doc' doc).1
      exact ne (hp.eq_of_length_le (eq ▸ hq.length_le))
    constructor
    · cases hx : decode p with
      | error e => exact ⟨e, rfl⟩
      | ok m =>
        obtain ⟨q, more, rfl, doc'⟩ := document_of_decode hx
        exact absurd doc' (none m q (List.prefix_append q more))
    · cases hx : decodeExact p with
      | error e => exact ⟨e, rfl⟩
      | ok m => exact absurd (document_of_decodeExact hx) (none m p List.prefix_rfl)

end Swarm.Bencode
