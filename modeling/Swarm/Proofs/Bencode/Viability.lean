import Swarm.Proofs.Bencode.Acceptance

/-!
# Where decoding fails

Exact decoding fails at the first byte with which no document can go on. When the source only ends
too early, the whole of it can still be completed.
-/

namespace Swarm.Bencode

/-- Some document begins with these bytes. -/
def Viable (b : Bytes) : Prop := ∃ more n, decodeExact (b ++ more) = .ok n

/-- The beginning of a document is viable. -/
lemma Document.viable {b more n} (doc : Document 0 64 (b ++ more) n) : Viable b :=
  ⟨more, n, doc.decodeExact⟩

/-- What is viable is the beginning of a document. -/
lemma Viable.document {b} (h : Viable b) : ∃ more n, Document 0 64 (b ++ more) n := by
  obtain ⟨more, n, h⟩ := h
  exact ⟨more, n, document_of_decodeExact h⟩

/-- Exact decoding fails where the value fails, or after it. -/
lemma decodeExact_error_cases {source e} (h : decodeExact source = .error e) :
    (Walk.value 64).read (.start source) = .error e ∨
    ∃ p bad later n, source = p ++ bad :: later ∧ Document 0 64 p n ∧
      e = .trailingData p.length := by
  rw [decodeExact_eq] at h
  -- no value can be read, or something follows it
  cases hx : (Walk.value 64).read (.start source) with
  | error e' =>
    rw [hx] at h
    cases h
    exact .inl rfl
  | ok x =>
    obtain ⟨n, c⟩ := x
    obtain ⟨p, eq, hpos, doc⟩ := (reads_value 64).sound hx
    rw [hx] at h
    obtain ⟨rest, pos⟩ := c
    cases rest with
    | nil => cases h
    | cons bad later =>
      cases h
      refine .inr ⟨p, bad, later, n, eq, doc, ?_⟩
      rw [hpos, Cursor.start, Nat.zero_add]

/-- With a byte after a document no document can go on. -/
lemma Document.not_viable {p n} (doc : Document 0 64 p n) (bad : UInt8) :
    ¬ Viable (p ++ [bad]) := by
  intro h
  obtain ⟨more, m, doc'⟩ := h.document
  have hp : p <+: p ++ [bad] ++ more := by
    rw [List.append_assoc]
    exact List.prefix_append p _
  have eq := (doc.unique hp List.prefix_rfl doc').1
  have len := congrArg List.length eq
  simp only [List.length_append, List.length_cons] at len
  omega

/-- With a byte that is refused for good no document can go on. -/
lemma not_viable_of_refused {b e}
    (final : ∀ later, (Walk.value 64).read ⟨b ++ later, 0⟩ = .error e) : ¬ Viable b := by
  intro h
  obtain ⟨more, n, doc⟩ := h.document
  have read := (reads_value 64).accepts doc []
  rw [List.append_assoc, final] at read
  cases read

/-- The offset of an error lies inside the source. Where the source only ends too early, all of it is
viable; otherwise what stands before the offset is, and with the byte at the offset it is not. -/
theorem decodeExact_error_offset {source : Bytes} {e : Error}
    (h : decodeExact source = .error e) :
    e.offset ≤ source.length ∧
    (e.LacksInput source.length → Viable source) ∧
    (¬ e.LacksInput source.length →
      e.offset < source.length ∧ Viable (source.take e.offset) ∧
        ¬ Viable (source.take (e.offset + 1))) := by
  -- all three follow once the source is cut at the offset
  have cut : ∀ {p bad later}, source = p ++ bad :: later → e.offset = p.length → Viable p →
      ¬ Viable (p ++ [bad]) → e.offset < source.length ∧ Viable (source.take e.offset) ∧
        ¬ Viable (source.take (e.offset + 1)) := by
    rintro p bad later rfl off good not_good
    have before : (p ++ bad :: later).take e.offset = p := List.take_left' off.symm
    have upTo : (p ++ bad :: later).take (e.offset + 1) = p ++ [bad] := by
      rw [List.append_cons]
      exact List.take_left' (by simp [off])
    rw [before, upTo]
    refine ⟨?_, good, not_good⟩
    simp [off]
  rcases decodeExact_error_cases h with hv | ⟨p, bad, later, n, eq, doc, rfl⟩
  · cases (reads_value 64).fails hv with
    | lacking more a lacks le doc =>
      have size : (Cursor.start source).stop = source.length := Nat.zero_add _
      rw [size] at lacks le
      exact ⟨le, fun _ => doc.viable, fun not_lacks => absurd lacks not_lacks⟩
    | refused passed bad later more a lacks eq off doc final =>
      have size : (Cursor.start source).stop = source.length := Nat.zero_add _
      rw [size] at lacks
      have off' : e.offset = passed.length := off.trans (Nat.zero_add _)
      have not_good : ¬ Viable (passed ++ [bad]) := by
        refine @not_viable_of_refused _ e fun later => ?_
        rw [List.append_assoc]
        exact final later
      have parts := cut eq off' doc.viable not_good
      exact ⟨parts.1.le, fun l => absurd l lacks, fun _ => parts⟩
  · have good : Viable p := @Document.viable p [] n (by rwa [List.append_nil])
    have parts := cut eq rfl good (doc.not_viable bad)
    exact ⟨parts.1.le, fun l => l.elim, fun _ => parts⟩

/-- An `x` in place of the end of an integer is refused, inside a list as well. -/
theorem decodeExact_error_offset_nested :
    decodeExact (Bytes.ofText "li5xe") = .error (.unexpectedByte 3 0x78 .integerEnd) ∧
      Viable ((Bytes.ofText "li5xe").take 3) ∧ ¬ Viable ((Bytes.ofText "li5xe").take 4) := by
  have h : decodeExact (Bytes.ofText "li5xe") = .error (.unexpectedByte 3 0x78 .integerEnd) := by
    rfl
  exact ⟨h, ((decodeExact_error_offset h).2.2 id).2⟩

end Swarm.Bencode
