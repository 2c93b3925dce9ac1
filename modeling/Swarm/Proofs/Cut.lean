import Mathlib.Data.List.Infix
import Swarm.Bytes

/-!
# Cutting at a mark

A byte string is cut at the first place where a mark stands. What comes after that place has no say
in it: whatever follows a byte string that can be cut, it is cut at the same place.
-/

namespace Swarm.Bytes

variable {mark passed b before after : Bytes}

/-- A scan passes the bytes up to the mark. -/
lemma cutFrom_eq (h : cutFrom mark passed b = some (before, after)) :
    ∃ skipped, before = passed.reverse ++ skipped ∧ b = skipped ++ mark ++ after := by
  fun_induction cutFrom mark passed b with
  | case1 passed empty =>
    cases h
    exact ⟨[], by simp, by simpa using empty⟩
  | case2 => cases h
  | case3 passed x rest here =>
    cases h
    obtain ⟨after, eq⟩ := List.isPrefixOf_iff_prefix.mp here
    exact ⟨[], by simp, by rw [← eq, List.drop_left, List.nil_append]⟩
  | case4 passed x rest _ ih =>
    obtain ⟨skipped, rfl, rfl⟩ := ih h
    exact ⟨x :: skipped, by simp, rfl⟩

/-- A scan that finds the mark finds it at the same place when more follows. -/
lemma cutFrom_append (h : cutFrom mark passed b = some (before, after)) (more : Bytes) :
    cutFrom mark passed (b ++ more) = some (before, after ++ more) := by
  fun_induction cutFrom mark passed b with
  | case1 passed empty =>
    cases h
    obtain rfl := List.isEmpty_iff.mp empty
    cases more <;> rfl
  | case2 => cases h
  | case3 passed x rest here =>
    cases h
    have here := List.isPrefixOf_iff_prefix.mp here
    have still : mark <+: x :: (rest ++ more) := here.trans (List.prefix_append (x :: rest) more)
    rw [List.cons_append, cutFrom, if_pos (List.isPrefixOf_iff_prefix.mpr still),
      ← List.cons_append, List.drop_append_of_le_length here.length_le]
  | case4 passed x rest away ih =>
    -- the mark is found later, so it is not longer than what is here already
    obtain ⟨skipped, -, eq⟩ := cutFrom_eq h
    have fits : mark.length ≤ (x :: rest).length := by
      simp only [eq, List.length_cons, List.length_append]
      omega
    have still : ¬ mark.isPrefixOf (x :: (rest ++ more)) := by
      intro here
      refine away (List.isPrefixOf_iff_prefix.mpr ?_)
      exact List.prefix_of_prefix_length_le (List.isPrefixOf_iff_prefix.mp here)
        (List.prefix_append (x :: rest) more) fits
    rw [List.cons_append, cutFrom, if_neg still]
    exact ih h

/-- What is cut consists of the parts and the mark between them. -/
lemma cut?_eq (h : cut? mark b = some (before, after)) : b = before ++ mark ++ after := by
  obtain ⟨skipped, rfl, rfl⟩ := cutFrom_eq h
  rfl

/-- What can be cut is cut at the same place when more follows. -/
lemma cut?_append (h : cut? mark b = some (before, after)) (more : Bytes) :
    cut? mark (b ++ more) = some (before, after ++ more) :=
  cutFrom_append h more

/-- A scan finds a mark that stands somewhere. -/
lemma cutFrom_ne_none (h : mark <:+: b) : cutFrom mark passed b ≠ none := by
  fun_induction cutFrom mark passed b with
  | case1 => nofun
  | case2 passed nonempty => simp_all
  | case3 => nofun
  | case4 passed x rest away ih =>
    rcases List.infix_cons_iff.mp h with here | later
    · exact absurd (List.isPrefixOf_iff_prefix.mpr here) away
    · exact ih later

/-- What holds the mark can be cut. -/
lemma exists_cut? (h : mark <:+: b) : ∃ before after, cut? mark b = some (before, after) := by
  cases found : cut? mark b with
  | none => exact absurd found (cutFrom_ne_none h)
  | some parts => exact ⟨parts.1, parts.2, rfl⟩

/-- What does not hold the mark cannot be cut. -/
lemma cut?_eq_none (h : ¬ mark <:+: b) : cut? mark b = none := by
  cases found : cut? mark b with
  | none => rfl
  | some parts => exact absurd ⟨parts.1, parts.2, (cut?_eq found).symm⟩ h

/-- The place of the cut is the first: a beginning in which the mark stands reaches as far. -/
lemma cut?_le (h : cut? mark b = some (before, after)) {p : Bytes} (hp : p <+: b)
    (marked : mark <:+: p) : before.length + mark.length ≤ p.length := by
  obtain ⟨more, rfl⟩ := hp
  cases hc : cut? mark p with
  | none => exact absurd hc (cutFrom_ne_none marked)
  | some parts =>
    obtain ⟨before', after'⟩ := parts
    have same := cut?_append hc more
    rw [h] at same
    cases same
    have length := congrArg List.length (cut?_eq hc)
    simp only [List.length_append] at length
    omega

/-- Bytes can be left out at the end as long as they come after the cut. -/
lemma cut?_shorten {more : Bytes} (h : cut? mark (b ++ more) = some (before, after))
    (late : more.length ≤ after.length) :
    ∃ rest, cut? mark b = some (before, rest) ∧ after = rest ++ more := by
  have eq := cut?_eq h
  have marked : before ++ mark <+: b := by
    refine List.prefix_of_prefix_length_le ⟨after, eq.symm⟩ (List.prefix_append b more) ?_
    have length := congrArg List.length eq
    simp only [List.length_append] at length ⊢
    omega
  cases hc : cut? mark b with
  | none =>
    have within := (List.suffix_append before mark).isInfix.trans marked.isInfix
    exact absurd hc (cutFrom_ne_none within)
  | some parts =>
    have same := cut?_append hc more
    rw [h] at same
    cases same
    exact ⟨_, rfl, rfl⟩

/-- A mark that stands in front is cut off. -/
lemma cut?_here (x : UInt8) (mark b : Bytes) :
    cut? (x :: mark) (x :: (mark ++ b)) = some ([], b) := by
  have here : (x :: mark).isPrefixOf (x :: (mark ++ b)) :=
    List.isPrefixOf_iff_prefix.mpr (List.prefix_append (x :: mark) b)
  rw [cut?, cutFrom, if_pos here]
  simp

/-! ## Bytes that cannot begin the mark -/

/-- What a scan has passed only comes in front of what it finds. -/
lemma cutFrom_passed (mark passed b : Bytes) :
    cutFrom mark passed b = (cut? mark b).map fun p => (passed.reverse ++ p.1, p.2) := by
  rw [cut?]
  induction b generalizing passed with
  | nil => by_cases empty : mark.isEmpty <;> simp [cutFrom, empty]
  | cons x rest ih =>
    by_cases here : mark.isPrefixOf (x :: rest)
    · simp [cutFrom, here]
    · rw [cutFrom, cutFrom, if_neg here, if_neg here, ih, ih [x], Option.map_map]
      congr 1
      funext p
      simp

/-- Where the mark does not stand in front, the cut comes later. -/
lemma cut?_cons {x : UInt8} (away : ¬ mark.isPrefixOf (x :: b)) :
    cut? mark (x :: b) = (cut? mark b).map fun p => (x :: p.1, p.2) := by
  rw [cut?, cutFrom, if_neg away, cutFrom_passed]
  rfl

/-- Bytes other than the first of the mark are passed over. -/
lemma cut?_skip {x : UInt8} {a : Bytes} (h : x ∉ a) (mark b : Bytes) :
    cut? (x :: mark) (a ++ b) = (cut? (x :: mark) b).map fun p => (a ++ p.1, p.2) := by
  induction a with
  | nil => simp
  | cons y a ih =>
    have away : ¬ (x :: mark).isPrefixOf (y :: (a ++ b)) := by
      intro here
      have same := (List.cons_prefix_cons.mp (List.isPrefixOf_iff_prefix.mp here)).1
      exact h (same ▸ List.mem_cons_self)
    rw [List.cons_append, cut?_cons away, ih (List.not_mem_of_not_mem_cons h), Option.map_map]
    rfl

end Swarm.Bytes
