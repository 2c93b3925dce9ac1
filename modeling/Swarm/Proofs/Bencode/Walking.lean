import Swarm.Bencode.Decoder
import Swarm.Proofs.Bencode.Acceptance
import Swarm.Proofs.Bencode.Relocation

/-!
# Decoding from where the cursor stands

Values are decoded one after another with a cursor that also stays where decoding fails. What is read
from there is what the bytes that are left decode to on their own, with their offsets counted from the
beginning of the source. So each walk is compared with the same walk at another offset: it results in
the same value or error, moved, and it stands behind what was read or at the error.
-/

namespace Swarm.Bencode

/-- The second cursor stands further on in the same source. -/
def Cursor.Reaches (c d : Cursor) : Prop :=
  ∃ passed, c.rest = passed ++ d.rest ∧ d.pos = c.pos + passed.length

/-- The cursor in a source that has so many bytes more before it. -/
def Cursor.behind (k : Nat) (c : Cursor) : Cursor := ⟨c.rest, c.pos + k⟩

/-- The error in a source that has so many bytes more before it. -/
def Error.behind (k : Nat) : Error → Error
  | .unexpectedEnd o p => .unexpectedEnd (o + k) p
  | .unexpectedByte o b p => .unexpectedByte (o + k) b p
  | .emptyNumber o => .emptyNumber (o + k)
  | .tooManyDigits o => .tooManyDigits (o + k)
  | .shortString o declared available => .shortString (o + k) declared available
  | .invalidKey o b => .invalidKey (o + k) b
  | .nestingTooDeep o => .nestingTooDeep (o + k)
  | .trailingData o => .trailingData (o + k)

/-- The node in a source that has so many bytes more before it. -/
def Node.behind (k : Nat) (n : Node) : Node := n.relocate (· + k)

/-- A walk in a source with `k` bytes more before it results in the same as without them, but moved.
Where the walk fails, the cursor stands at the offset of the error. -/
inductive Tracks {α : Type} (k : Nat) (move : α → α) (c : Cursor) :
    Except Error α × Cursor → Except Error α × Cursor → Prop where
  | ok {a d} :
    c.Reaches d →
    Tracks k move c (.ok a, d) (.ok (move a), d.behind k)
  | error {e d} :
    c.Reaches d →
    d.pos = e.offset →
    Tracks k move c (.error e, d) (.error (e.behind k), d.behind k)

variable {α β : Type} {k : Nat} {c d : Cursor}

/-- A cursor stands no further on than itself. -/
lemma Cursor.Reaches.refl (c : Cursor) : c.Reaches c := ⟨[], rfl, rfl⟩

/-- What stands further on than a cursor further on stands further on. -/
lemma Cursor.Reaches.trans {d' : Cursor} (h : c.Reaches d) (h' : d.Reaches d') : c.Reaches d' := by
  obtain ⟨p, eq, pos⟩ := h
  obtain ⟨p', eq', pos'⟩ := h'
  refine ⟨p ++ p', ?_, ?_⟩
  · rw [eq, eq', List.append_assoc]
  · rw [pos', pos, List.length_append, Nat.add_assoc]

/-- Stepping over bytes that are there leads further on. -/
lemma Cursor.reaches_advance {count : Nat} (h : count ≤ c.rest.length) :
    c.Reaches (c.advance count) := by
  refine ⟨c.rest.take count, (List.take_append_drop count c.rest).symm, ?_⟩
  rw [List.length_take, Nat.min_eq_left h]
  rfl

/-- Stepping over bytes is the same behind others. -/
lemma Cursor.advance_behind (c : Cursor) (count : Nat) :
    (c.behind k).advance count = (c.advance count).behind k := by
  rw [behind, behind, advance, advance, Nat.add_right_comm]

/-! ## Tracking -/

section
variable {move : α → α} {move' : β → β}

/-- What is tracked from a place is tracked from the places before it. -/
lemma Tracks.back {x y : Except Error α × Cursor} (h : c.Reaches d) (h' : Tracks k move d x y) :
    Tracks k move c x y := by
  cases h' with
  | ok reach => exact .ok (h.trans reach)
  | error reach here => exact .error (h.trans reach) here

/-- Two walks in a row are tracked if each of them is. -/
lemma Tracks.bind {w w' : Walk α} {f f' : α → Walk β}
    (first : Tracks k move c (w.runAt c) (w'.runAt (c.behind k)))
    (second : ∀ a d, Tracks k move' d ((f a).runAt d) ((f' (move a)).runAt (d.behind k))) :
    Tracks k move' c ((w >>= f).runAt c) ((w' >>= f').runAt (c.behind k)) := by
  rw [Walk.runAt_bind, Walk.runAt_bind]
  generalize w.runAt c = x at first
  generalize w'.runAt (c.behind k) = y at first
  cases first with
  | ok reach => exact (second _ _).back reach
  | error reach here => exact .error reach here

/-- A walk that depends on the bytes that are left is tracked where the same bytes are left. -/
lemma Tracks.rest {f f' : Bytes → Walk β}
    (h : Tracks k move' c ((f c.rest).runAt c) ((f' c.rest).runAt (c.behind k))) :
    Tracks k move' c ((Walk.rest >>= f).runAt c) ((Walk.rest >>= f').runAt (c.behind k)) := by
  rwa [Walk.runAt_rest_bind, Walk.runAt_rest_bind]

/-- A step over bytes that are there is tracked. -/
lemma tracks_skip {count : Nat} (enough : count ≤ c.rest.length) :
    Tracks k id c ((Walk.skip count).runAt c) ((Walk.skip count).runAt (c.behind k)) := by
  have stepped : (Walk.skip count).runAt (c.behind k) = (.ok (), (c.advance count).behind k) :=
    congrArg (Prod.mk _) (Cursor.advance_behind c count)
  rw [stepped]
  exact .ok (Cursor.reaches_advance enough)

/-- A walk is tracked after a step over bytes that are there. -/
lemma Tracks.skip {count : Nat} {f f' : Unit → Walk β} (enough : count ≤ c.rest.length)
    (h : Tracks k move' (c.advance count) ((f ()).runAt (c.advance count))
      ((f' ()).runAt ((c.advance count).behind k))) :
    Tracks k move' c ((Walk.skip count >>= f).runAt c)
      ((Walk.skip count >>= f').runAt (c.behind k)) := by
  rw [Walk.runAt_skip_bind, Walk.runAt_skip_bind, Cursor.advance_behind]
  exact h.back (Cursor.reaches_advance enough)

/-- A walk that does nothing is tracked. -/
lemma tracks_pure (a : α) (c : Cursor) :
    Tracks k move c ((pure a : Walk α).runAt c) ((pure (move a) : Walk α).runAt (c.behind k)) :=
  .ok (.refl c)

/-- A failure at the next byte is tracked. -/
lemma tracks_stop (error : Nat → Error) (moved : error (c.pos + k) = (error c.pos).behind k)
    (here : c.pos = (error c.pos).offset) :
    Tracks k move c ((Walk.stop error).runAt c) ((Walk.stop error).runAt (c.behind k)) := by
  rw [Walk.runAt_stop, Walk.runAt_stop, Cursor.behind, moved]
  exact .error (.refl c) here

end

/-! ## Numbers and byte strings -/

/-- A number is tracked. -/
lemma tracks_number (c : Cursor) :
    Tracks k id c (Walk.number.runAt c) (Walk.number.runAt (c.behind k)) := by
  have short : (c.rest.takeWhile Cursor.isDigit).length ≤ c.rest.length :=
    (List.takeWhile_prefix _).length_le
  refine .rest (.skip ((Nat.min_le_left ..).trans short) ?_)
  generalize c.advance _ = d
  by_cases many : maxDigits < (c.rest.takeWhile Cursor.isDigit).length
  · rw [if_pos many]
    exact tracks_stop .tooManyDigits rfl rfl
  · rw [if_neg many]
    by_cases none : (c.rest.takeWhile Cursor.isDigit).isEmpty
    · rw [if_pos none]
      exact tracks_stop .emptyNumber rfl rfl
    · rw [if_neg none]
      exact tracks_pure _ d

/-- A byte that must end a part is tracked. -/
lemma tracks_expect (wanted : UInt8) (part : Part) (c : Cursor) :
    Tracks k id c ((Walk.expect wanted part).runAt c)
      ((Walk.expect wanted part).runAt (c.behind k)) := by
  refine .rest ?_
  rcases rest : c.rest with _ | ⟨b, later⟩
  · exact tracks_stop (.unexpectedEnd · part) rfl rfl
  · by_cases same : b = wanted
    · simp only [if_pos same]
      exact tracks_skip (by simp [rest])
    · simp only [if_neg same]
      exact tracks_stop (.unexpectedByte · b part) rfl rfl

/-- A sign is tracked. -/
lemma tracks_sign (c : Cursor) :
    Tracks k id c (Walk.sign.runAt c) (Walk.sign.runAt (c.behind k)) := by
  refine .rest ?_
  rcases rest : c.rest with _ | ⟨b, later⟩
  · exact tracks_pure false c
  · by_cases minus : b = '-'.toUInt8
    · simp only [if_pos minus]
      exact .skip (by simp [rest]) (tracks_pure true _)
    · simp only [if_neg minus]
      exact tracks_pure false c

/-- An integer is tracked. -/
lemma tracks_integer (c : Cursor) :
    Tracks k id c (Walk.integer.runAt c) (Walk.integer.runAt (c.behind k)) :=
  (tracks_sign c).bind fun _ c => (tracks_number c).bind fun _ c =>
    (tracks_expect _ _ c).bind fun _ c => tracks_pure _ c

/-- A byte string is tracked. -/
lemma tracks_string (c : Cursor) :
    Tracks k id c (Walk.string.runAt c) (Walk.string.runAt (c.behind k)) := by
  refine (tracks_number c).bind fun declared c => (tracks_expect _ _ c).bind fun _ c => .rest ?_
  by_cases short : (c.rest.take declared).length < declared
  · simp only [id, if_pos short]
    exact tracks_stop (.shortString · declared _) rfl rfl
  · simp only [id, if_neg short]
    rw [List.length_take] at short
    exact .skip (by omega) (tracks_pure _ _)

/-! ## Containers -/

/-- Elements are tracked if each of them is. -/
lemma tracks_elements {part : Part} {element : Walk α} {move : α → α}
    (he : ∀ c, Tracks k move c (element.runAt c) (element.runAt (c.behind k)))
    (done : List α) (fuel : Bytes) (c : Cursor) :
    Tracks k (List.map move) c ((Walk.elements part element done fuel).runAt c)
      ((Walk.elements part element (done.map move) fuel).runAt (c.behind k)) := by
  induction fuel generalizing done c with
  | nil => exact tracks_stop (.unexpectedEnd · part) rfl rfl
  | cons byte fuel ih =>
    rw [Walk.elements, Walk.elements]
    refine .rest ?_
    rcases rest : c.rest with _ | ⟨b, later⟩
    · exact tracks_stop (.unexpectedEnd · part) rfl rfl
    · by_cases last : b = 'e'.toUInt8
      · simp only [if_pos last, ← List.map_reverse]
        exact .skip (by simp [rest]) (tracks_pure _ _)
      · simp only [if_neg last]
        exact (he c).bind fun a c => ih (a :: done) c

/-- An entry with its value in a source that has so many bytes more before it. -/
def behindEntry (k : Nat) (e : Bytes × Node) : Bytes × Node := (e.1, e.2.behind k)

/-- An entry is tracked if its value is. -/
lemma tracks_entry {item : Walk Node}
    (hi : ∀ c, Tracks k (Node.behind k) c (item.runAt c) (item.runAt (c.behind k))) (c : Cursor) :
    Tracks k (behindEntry k) c ((Walk.entry item).runAt c)
      ((Walk.entry item).runAt (c.behind k)) := by
  refine .rest ?_
  rcases c.rest with _ | ⟨b, later⟩
  · exact tracks_stop (.unexpectedEnd · .dict) rfl rfl
  · by_cases digit : Cursor.isDigit b = true
    · simp only [if_pos digit]
      exact (tracks_string c).bind fun key c => (hi c).bind fun n c => tracks_pure (key, n) c
    · simp only [if_neg digit]
      exact tracks_stop (.invalidKey · b) rfl rfl

/-! ## Values -/

/-- A list behind other bytes holds its items behind them. -/
lemma behind_list (k : Nat) (s : Span) (ns : List Node) :
    (Node.list s ns).behind k = .list (s.relocate (· + k)) (ns.map (Node.behind k)) :=
  congrArg (Node.list _) (Node.relocateItems_eq _ ns)

/-- A dictionary behind other bytes holds its entries behind them. -/
lemma behind_dict (k : Nat) (s : Span) (es : List (Bytes × Node)) :
    (Node.dict s es).behind k = .dict (s.relocate (· + k)) (es.map (behindEntry k)) :=
  congrArg (Node.dict _) (Node.relocateEntries_eq _ es)

/-- What is made of a part and of the stretch that ends with it is tracked if the part is. -/
lemma Tracks.spanned {move : α → α} {w : Walk α} (start : Nat) (make : Span → α → Node)
    (moved : ∀ s a, (make s a).behind k = make (s.relocate (· + k)) (move a))
    (part : Tracks k move c (w.runAt c) (w.runAt (c.behind k))) :
    Tracks k (Node.behind k) c
      (Walk.runAt (do
        let a ← w
        return make ⟨start, ← Walk.pos⟩ a) c)
      (Walk.runAt (do
        let a ← w
        return make ⟨start + k, ← Walk.pos⟩ a) (c.behind k)) := by
  refine part.bind fun a d => ?_
  have made : Tracks k (Node.behind k) d (Walk.runAt (pure (make ⟨start, d.pos⟩ a)) d) _ :=
    tracks_pure (make ⟨start, d.pos⟩ a) d
  rwa [moved] at made

/-- A value is tracked if those that stand in it are. -/
lemma tracks_valueWith {inner : Option (Walk Node)} (h : ∀ item ∈ inner, ∀ c,
      Tracks k (Node.behind k) c (item.runAt c) (item.runAt (c.behind k))) (c : Cursor) :
    Tracks k (Node.behind k) c ((Walk.valueWith inner).runAt c)
      ((Walk.valueWith inner).runAt (c.behind k)) := by
  rw [Walk.valueWith, Walk.runAt_pos_bind, Walk.runAt_pos_bind]
  refine .rest ?_
  rcases rest : c.rest with _ | ⟨b, later⟩
  · exact tracks_stop (.unexpectedEnd · .value) rfl rfl
  have one : 1 ≤ c.rest.length := by simp [rest]
  -- both walks see the same first byte, which decides what they read
  by_cases isInteger : b = 'i'.toUInt8
  · simp only [if_pos isInteger]
    exact .skip one ((tracks_integer _).spanned c.pos .integer fun _ _ => rfl)
  by_cases digit : Cursor.isDigit b = true
  · simp only [if_neg isInteger, if_pos digit]
    exact (tracks_string c).spanned c.pos .bytes fun _ _ => rfl
  by_cases isList : b = 'l'.toUInt8
  · simp only [if_neg isInteger, if_neg digit, if_pos isList]
    cases inner with
    | none => exact tracks_stop .nestingTooDeep rfl rfl
    | some item =>
      exact .skip one ((tracks_elements (h item rfl) [] _ _).spanned c.pos .list (behind_list k))
  by_cases isDict : b = 'd'.toUInt8
  · simp only [if_neg isInteger, if_neg digit, if_neg isList, if_pos isDict]
    cases inner with
    | none => exact tracks_stop .nestingTooDeep rfl rfl
    | some item =>
      exact .skip one
        ((tracks_elements (tracks_entry (h item rfl)) [] _ _).spanned c.pos .dict (behind_dict k))
  · simp only [if_neg isInteger, if_neg digit, if_neg isList, if_neg isDict]
    exact tracks_stop (.unexpectedByte · b .value) rfl rfl

/-- A walk over a value in a source with more bytes before it tracks the walk without them. -/
theorem tracks_value (k room : Nat) (c : Cursor) :
    Tracks k (Node.behind k) c ((Walk.value room).runAt c)
      ((Walk.value room).runAt (c.behind k)) := by
  induction room generalizing c with
  | zero => exact tracks_valueWith (by simp) c
  | succ room ih =>
    refine tracks_valueWith ?_ c
    rintro _ ⟨⟩
    exact ih

/-! ## Calls in a row -/

/-- The cursor in a source after so many calls, whether they succeed or not. -/
def Cursor.afterCalls (source : Bytes) (count : Nat) : Cursor :=
  (fun c => c.next.2)^[count] (.start source)

/-- An error behind other bytes is that much later. -/
lemma Error.offset_behind (k : Nat) (e : Error) : (e.behind k).offset = e.offset + k := by
  cases e <;> rfl

/-- A document behind other bytes stands right after them. -/
lemma Document.span_behind {p : Bytes} {n : Node} (doc : Document 0 64 p n) (k : Nat) :
    (n.behind k).span = ⟨k, k + p.length⟩ := by
  have moved : (n.behind k).span = n.span.relocate (· + k) := by cases n <;> rfl
  rw [moved, doc.span_eq, Span.relocate, Nat.zero_add, Nat.zero_add, Nat.add_comm]

/-- A call decodes what stands at the beginning of the bytes that are left. It passes the document
there, or the bytes up to the offset of the error. -/
theorem Cursor.next_cases (c : Cursor) :
    (∃ n p more, c.rest = p ++ more ∧ Document 0 64 p n ∧
      c.next = (.ok (n.behind c.pos), ⟨more, c.pos + p.length⟩)) ∨
    ∃ e passed more, c.rest = passed ++ more ∧ decode c.rest = .error e ∧
      e.offset = passed.length ∧ c.next = (.error (e.behind c.pos), ⟨more, c.pos + passed.length⟩) := by
  have tracks : Tracks c.pos _ _ (start c.rest).next ((start c.rest).behind c.pos).next :=
    tracks_value c.pos 64 (start c.rest)
  have here : (start c.rest).behind c.pos = c := by rw [behind, start, Nat.zero_add]
  have decoded : decode c.rest = (start c.rest).next.1 := rfl
  have place {d : Cursor} {passed : Bytes} (pos : d.pos = (start c.rest).pos + passed.length) :
      d.behind c.pos = ⟨d.rest, c.pos + passed.length⟩ := by
    rw [behind, pos, start, Nat.zero_add, Nat.add_comm]
  rw [here] at tracks
  rw [decoded]
  -- what is read from the start of the rest, moved to where the cursor stands
  generalize answer : (start c.rest).next = x at tracks
  generalize c.next = y at tracks
  cases tracks with
  | @ok n d =>
    have read : (Walk.value 64).read (start c.rest) = .ok (n, d) := Walk.read_of_runAt answer
    obtain ⟨p, eq, pos, doc⟩ := (reads_value 64).sound read
    exact .inl ⟨n, p, d.rest, eq, doc, by rw [place pos]⟩
  | @error e d reach stopped =>
    obtain ⟨passed, eq, pos⟩ := reach
    refine .inr ⟨e, passed, d.rest, eq, rfl, ?_, by rw [place pos]⟩
    rw [← stopped, pos, start, Nat.zero_add]

/-- The next value is the one at the beginning of the bytes that are left, and the cursor stands after
it, or at the error. -/
lemma Cursor.next_eq (c : Cursor) :
    c.next.1 = ((decode c.rest).map (Node.behind c.pos)).mapError (Error.behind c.pos) ∧
    (∀ n, c.next.1 = .ok n → c.next.2.pos = n.span.stop ∧ c.pos < c.next.2.pos) ∧
    (∀ e, c.next.1 = .error e → c.next.2.pos = e.offset) := by
  rcases c.next_cases with ⟨n, p, more, eq, doc, next⟩ | ⟨e, passed, more, -, failed, off, next⟩
  · rw [next, eq, doc.decode_append more]
    refine ⟨rfl, ?_, nofun⟩
    rintro _ ⟨⟩
    obtain ⟨_, _, rfl, -⟩ := doc.head
    rw [doc.span_behind]
    exact ⟨rfl, Nat.lt_add_of_pos_right (Nat.succ_pos _)⟩
  · rw [next, failed]
    refine ⟨rfl, nofun, ?_⟩
    rintro _ ⟨⟩
    rw [Error.offset_behind, off, Nat.add_comm]

/-- A call only moves the cursor forward. -/
lemma Cursor.next_reaches (c : Cursor) : c.Reaches c.next.2 := by
  rcases c.next_cases with ⟨n, p, more, eq, -, next⟩ | ⟨e, p, more, eq, -, -, next⟩
  all_goals
    rw [next]
    exact ⟨p, eq, rfl⟩

/-- One more call goes on where the calls before it end. -/
lemma Cursor.afterCalls_succ (source : Bytes) (count : Nat) :
    afterCalls source (count + 1) = (afterCalls source count).next.2 :=
  Function.iterate_succ_apply' ..

/-- After any calls the cursor still stands in the source. -/
lemma Cursor.reaches_afterCalls (source : Bytes) (count : Nat) :
    (start source).Reaches (afterCalls source count) := by
  induction count with
  | zero => exact .refl _
  | succ count ih =>
    rw [afterCalls_succ]
    exact ih.trans (next_reaches _)

/-- From the start, a cursor reaches only places in the source, with the rest of it unread. -/
lemma Cursor.Reaches.rest_eq {source : Bytes} (h : (start source).Reaches c) :
    c.rest = source.drop c.pos ∧ c.pos ≤ source.length := by
  obtain ⟨passed, eq, pos⟩ := h
  rw [start, Nat.zero_add] at pos
  rw [pos, show source = passed ++ c.rest from eq]
  exact ⟨List.drop_left.symm, by simp⟩

/-- Where a document comes next, it is decoded and passed. -/
lemma Document.next {p more : Bytes} {n : Node} (doc : Document 0 64 p n) (h : c.rest = p ++ more) :
    c.next = (.ok (n.behind c.pos), ⟨more, c.pos + p.length⟩) := by
  have decoded := doc.decode_append more
  rcases c.next_cases with ⟨m, q, more', eq, doc', next⟩ | ⟨e, _, _, -, failed, -⟩
  · rw [h] at eq
    have beginning : q <+: p ++ more := by
      rw [eq]
      exact List.prefix_append q more'
    obtain ⟨rfl, rfl⟩ := doc.unique (List.prefix_append p more) beginning doc'
    rw [next, List.append_cancel_left eq]
  · rw [h, decoded] at failed
    cases failed

/-- Documents in a row are passed by as many calls. -/
lemma Cursor.iterate_next {docs : List (Bytes × Node)} {more : Bytes}
    (documents : ∀ d ∈ docs, decodeExact d.1 = .ok d.2)
    (h : c.rest = docs.flatMap (·.1) ++ more) :
    (fun c => c.next.2)^[docs.length] c = ⟨more, c.pos + (docs.flatMap (·.1)).length⟩ := by
  induction docs generalizing c with
  | nil =>
    have rest : c.rest = more := h
    rw [← rest]
    rfl
  | cons d docs ih =>
    obtain ⟨first, others⟩ := List.forall_mem_cons.mp documents
    rw [List.flatMap_cons, List.append_assoc] at h
    rw [List.length_cons, Function.iterate_succ_apply, (document_of_decodeExact first).next h,
      ih others rfl, List.flatMap_cons, List.length_append, Nat.add_assoc]

/-- Let values be decoded one after another, going on after errors from where the cursor stands. No
call moves the cursor back or beyond the source. Its answer is that for the bytes which are left, with
every offset counted from the beginning of the source. After a value the cursor stands at the end of
it, further on than before; after an error it stands at the offset of the error. Documents in a row are
decoded in order, and then nothing is left. -/
theorem decode_calls (source : Bytes) :
    (∀ count,
      let c := Cursor.afterCalls source count
      let d := Cursor.afterCalls source (count + 1)
      c.pos ≤ d.pos ∧ d.pos ≤ source.length ∧ c.rest = source.drop c.pos ∧
      c.next.1 =
        ((decode (source.drop c.pos)).map (Node.behind c.pos)).mapError (Error.behind c.pos) ∧
      (∀ n, c.next.1 = .ok n → d.pos = n.span.stop ∧ c.pos < d.pos) ∧
      (∀ e, c.next.1 = .error e → d.pos = e.offset)) ∧
    (∀ docs : List (Bytes × Node), (∀ d ∈ docs, decodeExact d.1 = .ok d.2) →
      source = docs.flatMap (·.1) →
      (∀ before p n later, docs = before ++ (p, n) :: later →
        (Cursor.afterCalls source before.length).next.1 =
          .ok (n.behind (before.flatMap (·.1)).length)) ∧
      (Cursor.afterCalls source docs.length).atEnd) := by
  refine ⟨fun count => ?_, fun docs documents eq => ⟨fun before p n later split => ?_, ?_⟩⟩
  · intro c d
    -- one call from where the calls before it have left the cursor
    obtain ⟨rest, -⟩ := (Cursor.reaches_afterCalls source count).rest_eq
    obtain ⟨-, inside⟩ := (Cursor.reaches_afterCalls source (count + 1)).rest_eq
    obtain ⟨passed, -, pos⟩ := c.next_reaches
    obtain ⟨answer, ok, error⟩ := c.next_eq
    have next : d = c.next.2 := Cursor.afterCalls_succ source count
    rw [← next] at pos ok error
    rw [rest] at answer
    exact ⟨by omega, inside, rest, answer, ok, error⟩
  · subst split
    rw [List.flatMap_append, List.flatMap_cons] at eq
    obtain ⟨first, others⟩ := List.forall_mem_append.mp documents
    have here := Cursor.iterate_next (c := .start source) first eq
    rw [Cursor.afterCalls, here]
    have doc := document_of_decodeExact (List.forall_mem_cons.mp others).1
    rw [doc.next rfl, Cursor.start, Nat.zero_add]
  · have whole : (Cursor.start source).rest = docs.flatMap (·.1) ++ [] := by
      rw [List.append_nil]
      exact eq
    rw [Cursor.afterCalls, Cursor.iterate_next documents whole]
    rfl

/-- Two documents in a row, and two calls with an error between them: a list that stops in a byte
string is an error at the content of that string, and the rest of the source is decoded from there. -/
theorem decode_calls_example :
    (Cursor.afterCalls (Bytes.ofText "i1e1:a") 1).next.1 = .ok (.bytes ⟨3, 6⟩ [97]) ∧
    (Cursor.afterCalls (Bytes.ofText "i1e1:a") 2).atEnd ∧
    (Cursor.afterCalls (Bytes.ofText "l9:i1e") 1).pos = 3 ∧
    (Cursor.afterCalls (Bytes.ofText "l9:i1e") 1).next.1 = .ok (.integer ⟨3, 6⟩ 1) ∧
    (Cursor.afterCalls (Bytes.ofText "l9:i1e") 2).pos = 6 := by
  have spelled : Bytes.ofText "i1e1:a" = [105, 49, 101, 49, 58, 97] := by decide
  have spelled' : Bytes.ofText "l9:i1e" = [108, 57, 58, 105, 49, 101] := by decide
  rw [spelled, spelled']
  obtain ⟨inOrder, whole⟩ := (decode_calls [105, 49, 101, 49, 58, 97]).2
    [([105, 49, 101], .integer ⟨0, 3⟩ 1), ([49, 58, 97], .bytes ⟨0, 3⟩ [97])]
    (by simp only [List.forall_mem_cons]; exact ⟨rfl, rfl, nofun⟩) rfl
  have call := (decode_calls [108, 57, 58, 105, 49, 101]).1
  have stopped := (call 0).2.2.2.2.2 (.shortString 3 9 3) (call 0).2.2.2.1
  have later := (call 1).2.2.2.2.1 (.integer ⟨3, 6⟩ 1)
  have answer := (call 1).2.2.2.1
  rw [stopped] at answer
  exact ⟨inOrder [_] _ _ [] rfl, whole, stopped, answer, (later answer).1⟩

end Swarm.Bencode
