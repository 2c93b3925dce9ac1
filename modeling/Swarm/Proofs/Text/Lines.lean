import Mathlib.Data.List.Infix
import Swarm.Text.Blank

/-!
# Lines and words put together

What the readers of text find in a text that is put together: the lines that stand between line feeds,
the words that stand between blanks, a name and a value that stand around a colon.
-/

namespace Swarm.Text

variable {mark : Char → Bool} {cs l rest ending part name value : List Char} {c : Char}

/-! ## Pieces -/

/-- What was passed of a piece comes in front of its rest, behind the pieces that are done. -/
lemma piecesFrom_eq (piece : List Char) (done : List (List Char)) :
    piecesFrom mark piece done cs =
      done.reverse ++ (cs.splitOnP mark).modifyHead (piece.reverse ++ ·) := by
  fun_induction piecesFrom mark piece done cs with
  | case1 piece done => simp
  | case2 piece done c cs marked ih =>
    rw [ih, List.splitOnP_cons_eq_if_modifyHead, if_pos marked, List.reverse_nil,
      List.modifyHead_cons]
    cases cs.splitOnP mark <;> simp
  | case3 piece done c cs unmarked ih =>
    rw [ih, List.splitOnP_cons_eq_if_modifyHead, if_neg unmarked, List.modifyHead_modifyHead]
    simp [Function.comp_def]

/-- The pieces of a text are those of the library. -/
lemma pieces_eq : pieces mark cs = cs.splitOnP mark := by
  rw [pieces, piecesFrom_eq]
  cases cs.splitOnP mark <;> rfl

/-- A mark parts the pieces before it from those after it. -/
lemma pieces_append (marked : mark c) (l rest : List Char) :
    pieces mark (l ++ c :: rest) = pieces mark l ++ pieces mark rest := by
  rw [pieces_eq, pieces_eq, pieces_eq, List.splitOnP_append_cons l rest marked]

/-- Without a mark, there is one piece. -/
lemma pieces_unmarked (unmarked : ∀ c ∈ l, mark c = false) : pieces mark l = [l] := by
  rw [pieces_eq, List.splitOnP_eq_singleton unmarked]

/-- Pieces with a mark between them are found again. -/
lemma pieces_intercalate {ls : List (List Char)} (unmarked : ∀ l ∈ ls, c ∉ l) (nonempty : ls ≠ []) :
    pieces (· == c) ([c].intercalate ls) = ls := by
  rw [pieces_eq]
  exact List.splitOn_intercalate c unmarked nonempty

/-- Characters of lists with another character between them are that one or from one of the lists. -/
lemma mem_intercalate {x : Char} {ls : List (List Char)} (h : x ∈ [c].intercalate ls) :
    x = c ∨ ∃ l ∈ ls, x ∈ l := by
  induction ls with
  | nil => cases h
  | cons l ls ih =>
    cases ls with
    | nil =>
      rw [List.intercalate_singleton] at h
      exact .inr ⟨l, List.mem_cons_self, h⟩
    | cons l' ls =>
      rw [List.intercalate_cons_cons, List.mem_append, List.mem_append, List.mem_singleton] at h
      rcases h with (here | mark) | later
      · exact .inr ⟨l, List.mem_cons_self, here⟩
      · exact .inl mark
      · exact (ih later).imp_right fun ⟨l, among, inside⟩ => ⟨l, List.mem_cons_of_mem _ among, inside⟩

/-- There is at least one piece. -/
lemma pieces_ne_nil : pieces mark cs ≠ [] := by
  rw [pieces_eq]
  exact List.splitOnP_ne_nil mark cs

/-! ## Words -/

/-- A blank parts the words before it from those after it. -/
lemma words_append (blank : isBlank c) (l rest : List Char) :
    words (l ++ c :: rest) = words l ++ words rest := by
  rw [words, pieces_append blank, List.filter_append]
  rfl

/-- Without a blank, there is one word. -/
lemma words_word (nonempty : l ≠ []) (noBlank : ∀ c ∈ l, isBlank c = false) : words l = [l] := by
  rw [words, pieces_unmarked noBlank]
  simp [nonempty]

/-- Nothing is removed from the ends of a text without blanks. -/
lemma trim_word (noBlank : ∀ c ∈ l, isBlank c = false) : trim l = l := by
  have kept {cs : List Char} (h : ∀ c ∈ cs, isBlank c = false) : cs.dropWhile isBlank = cs := by
    cases cs with
    | nil => rfl
    | cons c cs => rw [List.dropWhile_cons, h c List.mem_cons_self, if_neg Bool.false_ne_true]
  have kept_reverse := kept fun c inside => noBlank c (List.mem_reverse.mp inside)
  rw [trim, kept noBlank, kept_reverse, List.reverse_reverse]

/-! ## Lines -/

/-- A line without a carriage return stays as it is. -/
lemma dropReturn_line (noReturn : '\r' ∉ l) : dropReturn l = l :=
  if_neg fun last => noReturn (List.mem_of_getLast? last)

/-- A line without a feed is one piece. -/
lemma pieces_line (noFeed : '\n' ∉ l) : pieces (· == '\n') l = [l] :=
  pieces_unmarked fun _ inside => beq_false_of_ne fun same => noFeed (same ▸ inside)

/-- A feed ends a line. -/
lemma lines_append (noFeed : '\n' ∉ l) (rest : List Char) :
    lines (l ++ '\n' :: rest) = dropReturn l :: lines rest := by
  rw [lines, lines, pieces_append rfl, pieces_line noFeed]
  have nonempty : pieces (· == '\n') rest ≠ [] := pieces_ne_nil
  obtain ⟨p, ps, eq⟩ := List.exists_cons_of_ne_nil nonempty
  rw [eq]
  simp only [List.singleton_append, List.dropLast_cons_cons, List.getLast?_cons_cons, List.map_cons]
  split <;> rfl

/-- What holds no feed is one line. -/
lemma lines_line (nonempty : l ≠ []) (noFeed : '\n' ∉ l) : lines l = [l] := by
  rw [lines, pieces_line noFeed]
  obtain ⟨c, cs, rfl⟩ := List.exists_cons_of_ne_nil nonempty
  rfl

/-- A line ends with a line feed, with or without a carriage return before it. -/
lemma lines_ended (ends : ending = ['\n'] ∨ ending = ['\r', '\n']) (noReturn : '\r' ∉ l)
    (noFeed : '\n' ∉ l) (rest : List Char) : lines (l ++ ending ++ rest) = l :: lines rest := by
  rcases ends with rfl | rfl
  · rw [List.append_assoc, List.singleton_append, lines_append noFeed, dropReturn_line noReturn]
  · have noFeed' : '\n' ∉ l ++ ['\r'] := by simpa using noFeed
    have returned : dropReturn (l ++ ['\r']) = l := by simp [dropReturn]
    have split : l ++ ['\r', '\n'] ++ rest = l ++ ['\r'] ++ '\n' :: rest := by simp
    rw [split, lines_append noFeed', returned]

/-- Lines with line ends between them are the lines of the text. -/
theorem lines_intercalate {ls : List (List Char)} (ends : ending = ['\n'] ∨ ending = ['\r', '\n'])
    (line : ∀ l ∈ ls, l ≠ [] ∧ '\r' ∉ l ∧ '\n' ∉ l) : lines (ending.intercalate ls) = ls := by
  induction ls with
  | nil => rfl
  | cons l ls ih =>
    obtain ⟨⟨nonempty, noReturn, noFeed⟩, others⟩ := List.forall_mem_cons.mp line
    cases ls with
    | nil => simpa using lines_line nonempty noFeed
    | cons l' ls => rw [List.intercalate_cons_cons, lines_ended ends noReturn noFeed, ih others]

/-! ## Names and values -/

/-- A text is cut at its first character or later. -/
lemma cut?_cons (mark c : Char) (cs : List Char) :
    cut? mark (c :: cs) =
      if c = mark then some ([], cs) else (cut? mark cs).map fun p => (c :: p.1, p.2) := by
  by_cases here : c = mark
  · simp [cut?, here]
  · simp only [cut?, List.dropWhile_cons, List.takeWhile_cons, bne_iff_ne.mpr here, here, if_true,
      if_false]
    cases cs.dropWhile (· != mark) <;> rfl

/-- A text is cut at the first place where a character stands. -/
lemma cut?_eq_some : cut? c cs = some (name, value) ↔ cs = name ++ c :: value ∧ c ∉ name := by
  induction cs generalizing name with
  | nil => simp [cut?]
  | cons x cs ih =>
    rw [cut?_cons]
    by_cases here : x = c
    · subst here
      rw [if_pos rfl]
      constructor
      · rintro ⟨⟩
        exact ⟨rfl, List.not_mem_nil⟩
      · rintro ⟨eq, unmarked⟩
        cases name with
        | nil => cases eq; rfl
        | cons y name => cases eq; exact absurd List.mem_cons_self unmarked
    · rw [if_neg here]
      cases name with
      | nil => simp [here]
      | cons y name =>
        rw [Option.map_eq_some_iff]
        constructor
        · rintro ⟨⟨name, value⟩, found, ⟨⟩⟩
          obtain ⟨rfl, unmarked⟩ := ih.mp found
          exact ⟨rfl, List.not_mem_cons_of_ne_of_not_mem (Ne.symm here) unmarked⟩
        · rintro ⟨eq, unmarked⟩
          cases eq
          exact ⟨(name, value), ih.mpr ⟨rfl, List.not_mem_of_not_mem_cons unmarked⟩, rfl⟩

/-- A text contains what is a stretch of it. -/
lemma contains_iff : contains part cs ↔ part <:+: cs := by
  induction cs with
  | nil => simp [contains]
  | cons c cs ih =>
    rw [contains, Bool.or_eq_true, ih, List.infix_cons_iff, List.isPrefixOf_iff_prefix]

end Swarm.Text
