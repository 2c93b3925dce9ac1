/-!
# Timelines

Things that happen, each with its moment, in the order of time. Things of one moment stand in the
order in which they were added.
-/

namespace Swarm.Time

/-- Something that happens at a moment, counted in nanoseconds. -/
structure Timed (α : Type) where
  moment : Nat
  event : α
deriving DecidableEq

namespace Timed

/-- The same thing, so many nanoseconds later. -/
def later (t : Nat) (x : Timed α) : Timed α := ⟨t + x.moment, x.event⟩

/-- Puts a thing behind all that happen no later. -/
def insert (x : Timed α) : List (Timed α) → List (Timed α)
  | [] => [x]
  | y :: ys => if y.moment ≤ x.moment then y :: x.insert ys else x :: y :: ys

/-- An insertion adds the one thing and loses none. -/
theorem insert_perm (x : Timed α) (ys : List (Timed α)) : (x.insert ys).Perm (x :: ys) := by
  induction ys with
  | nil => exact .refl _
  | cons y ys ih =>
    rw [insert]
    split
    · exact (ih.cons y).trans (.swap x y ys)
    · exact .refl _

/-- An insertion keeps the order of time. -/
theorem insert_sorted (x : Timed α) {ys : List (Timed α)} (h : ys.Pairwise (·.moment ≤ ·.moment)) :
    (x.insert ys).Pairwise (·.moment ≤ ·.moment) := by
  induction ys with
  | nil => exact List.pairwise_singleton ..
  | cons y ys ih =>
    obtain ⟨least, sorted⟩ := List.pairwise_cons.mp h
    rw [insert]
    split
    case isTrue early =>
      refine List.pairwise_cons.mpr ⟨fun z mem => ?_, ih sorted⟩
      cases (x.insert_perm ys).mem_iff.mp mem with
      | head => exact early
      | tail _ mem => exact least z mem
    case isFalse late =>
      refine List.pairwise_cons.mpr ⟨fun z mem => ?_, h⟩
      cases mem with
      | head => omega
      | tail _ mem =>
        have := least z mem
        omega

end Timed

/-- Things in the order of their moments. -/
@[ext]
structure Timeline (α : Type) where
  events : List (Timed α)
  sorted : events.Pairwise (·.moment ≤ ·.moment)
deriving DecidableEq

namespace Timeline

/-- Nothing happens. -/
def empty : Timeline α := ⟨[], .nil⟩

/-- One more thing happens. -/
def add (l : Timeline α) (x : Timed α) : Timeline α := ⟨x.insert l.events, x.insert_sorted l.sorted⟩

/-- More things happen. -/
def addAll (l : Timeline α) (xs : List (Timed α)) : Timeline α := xs.foldl add l

/-- What happens first, and what happens after that. -/
def first? : Timeline α → Option (Timed α × Timeline α)
  | ⟨[], _⟩ => none
  | ⟨x :: xs, sorted⟩ => some (x, ⟨xs, (List.pairwise_cons.mp sorted).2⟩)

variable {l l' : Timeline α} {x : Timed α} {xs ys : List (Timed α)}

/-- One more thing is put into the order of time. -/
theorem events_add (l : Timeline α) (x : Timed α) : (l.add x).events = x.insert l.events := rfl

/-- Nothing is first where nothing happens. -/
theorem first?_eq_none : l.first? = none ↔ l.events = [] := by
  obtain ⟨_ | ⟨y, ys⟩, sorted⟩ := l
  · exact iff_of_true rfl rfl
  · simp [first?]

/-- What is first and what comes after it are the whole. -/
theorem first?_eq_some : l.first? = some (x, l') ↔ l.events = x :: l'.events := by
  obtain ⟨_ | ⟨y, ys⟩, sorted⟩ := l
  · simp [first?]
  · simp [first?, Timeline.ext_iff]

/-- Nothing happens before what is first. -/
theorem least (h : l.events = x :: xs) {y : Timed α} (mem : y ∈ l.events) : x.moment ≤ y.moment := by
  have sorted := l.sorted
  rw [h] at mem sorted
  cases mem with
  | head => exact Nat.le_refl _
  | tail _ mem => exact (List.pairwise_cons.mp sorted).1 y mem

/-- With more things on it, a timeline holds them and what it held. -/
theorem addAll_perm (l : Timeline α) (xs : List (Timed α)) :
    (l.addAll xs).events.Perm (l.events ++ xs) := by
  induction xs generalizing l with
  | nil => rw [List.append_nil]; exact .refl _
  | cons x xs ih =>
    have moved : (x.insert l.events ++ xs).Perm (x :: l.events ++ xs) :=
      (x.insert_perm l.events).append_right xs
    exact ((ih _).trans moved).trans List.perm_middle.symm

/-- What is first stays first where nothing is added before it. -/
theorem first?_addAll (h : l.first? = some (x, l')) (late : ∀ y ∈ xs, x.moment ≤ y.moment) :
    ∃ l'', (l.addAll xs).first? = some (x, l'') := by
  induction xs generalizing l l' with
  | nil => exact ⟨l', h⟩
  | cons y ys ih =>
    have head : (l.add y).events = x :: y.insert l'.events := by
      rw [events_add, first?_eq_some.mp h, Timed.insert, if_pos (late y List.mem_cons_self)]
    have still : (l.add y).first? = some (x, l'.add y) := first?_eq_some.mpr head
    exact ih still fun z mem => late z (List.mem_cons_of_mem y mem)

/-- Things can be added in two goes. -/
theorem addAll_append (l : Timeline α) (xs ys : List (Timed α)) :
    l.addAll (xs ++ ys) = (l.addAll xs).addAll ys := List.foldl_append

end Timeline

end Swarm.Time
