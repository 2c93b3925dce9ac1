import Swarm.Proofs.Bencode.Walks

/-!
# Reading numbers and byte strings

A reader fits a grammar when it accepts what the grammar spells, whatever follows, when what it
accepts is spelled by the bytes that it passes, and when it fails at the right place: either the
source only ends too early, or the bytes before the offending one can be completed and those up to
and including it cannot.
-/

namespace Swarm.Bencode

/-- Which bytes spell what, if they begin at an offset. -/
abbrev Spelling (α : Type) := (pos : Nat) → Bytes → α → Prop

/-- The offset at which the source of a cursor ends. -/
def Cursor.stop (c : Cursor) : Nat := c.pos + c.rest.length

/-- The error is that a source of this size ends too early. -/
def Error.LacksInput (size : Nat) : Error → Prop
  | .unexpectedEnd .. | .shortString .. => True
  | .emptyNumber o => o = size
  | _ => False

/-- How a reader fails. -/
inductive Failure {α} (read : Reader α) (spells : Spelling α) (c : Cursor) (e : Error) : Prop where
  /-- All that is left can be completed. -/
  | lacking (more : Bytes) (a : α) :
    e.LacksInput c.stop →
    e.offset ≤ c.stop →
    spells c.pos (c.rest ++ more) a →
    Failure read spells c e
  /-- What stands before a byte can be completed, and with that byte reading fails for good. -/
  | refused (passed : Bytes) (bad : UInt8) (later more : Bytes) (a : α) :
    ¬ e.LacksInput c.stop →
    c.rest = passed ++ bad :: later →
    e.offset = c.pos + passed.length →
    spells c.pos (passed ++ more) a →
    (∀ later, read ⟨passed ++ bad :: later, c.pos⟩ = .error e) →
    Failure read spells c e

/-- What a reader may answer at a cursor. -/
inductive Outcome {α} (read : Reader α) (spells : Spelling α) (c : Cursor) :
    Except Error (α × Cursor) → Prop where
  | ok (b rest : Bytes) (a : α) :
    c.rest = b ++ rest →
    spells c.pos b a →
    Outcome read spells c (.ok (a, ⟨rest, c.pos + b.length⟩))
  | error {e} :
    Failure read spells c e →
    Outcome read spells c (.error e)

/-- The reader fits the grammar. -/
structure Reads {α} (read : Reader α) (spells : Spelling α) : Prop where
  accepts : ∀ {pos b a}, spells pos b a →
    ∀ rest, read ⟨b ++ rest, pos⟩ = .ok (a, ⟨rest, pos + b.length⟩)
  outcome : ∀ c, Outcome read spells c (read c)

/-- What is accepted is spelled by the bytes that were passed. -/
lemma Reads.sound {α} {read : Reader α} {spells : Spelling α} (hr : Reads read spells) {c a c'}
    (h : read c = .ok (a, c')) :
    ∃ b, c.rest = b ++ c'.rest ∧ c'.pos = c.pos + b.length ∧ spells c.pos b a := by
  have out := hr.outcome c
  rw [h] at out
  cases out with
  | ok b _ _ eq sp => exact ⟨b, eq, rfl, sp⟩

/-- A failure is at the right place. -/
lemma Reads.fails {α} {read : Reader α} {spells : Spelling α} (hr : Reads read spells) {c e}
    (h : read c = .error e) : Failure read spells c e := by
  have out := hr.outcome c
  rw [h] at out
  cases out with
  | error fail => exact fail

/-- A failure after some bytes were passed is a failure from where they begin, if what completes the
part that failed can be completed to the whole. Only sources that go on with the same byte are looked
at, since that byte may have decided what is read. -/
lemma Failure.after {α β} {read : Reader α} {spells : Spelling α} {read' : Reader β}
    {spells' : Spelling β} {c c' e} (h : Failure read spells c' e) (taken : Bytes)
    (hrest : c.rest = taken ++ c'.rest) (hpos : c'.pos = c.pos + taken.length)
    (complete : ∀ {b a}, spells c'.pos b a → ∃ more a', spells' c.pos (taken ++ b ++ more) a')
    (same : ∀ rest, rest.head? = c'.rest.head? → read ⟨rest, c'.pos⟩ = .error e →
      read' ⟨taken ++ rest, c.pos⟩ = .error e) :
    Failure read' spells' c e := by
  have hstop : c'.stop = c.stop := by
    simp only [Cursor.stop, hrest, hpos, List.length_append]
    omega
  -- what completes the spelling of the part completes that of the whole
  cases h with
  | lacking more a lacks le sp =>
    obtain ⟨more', a', sp'⟩ := complete sp
    refine .lacking (more ++ more') a' (hstop ▸ lacks) (hstop ▸ le) ?_
    simpa only [hrest, List.append_assoc] using sp'
  | refused passed bad later more a lacks eq off sp final =>
    obtain ⟨more', a', sp'⟩ := complete sp
    refine .refused (taken ++ passed) bad later (more ++ more') a' (hstop ▸ lacks) ?_ ?_ ?_ ?_
    · rw [hrest, eq, List.append_assoc]
    · rw [off, hpos, List.length_append, Nat.add_assoc]
    · simpa only [List.append_assoc] using sp'
    · intro rest
      rw [List.append_assoc]
      refine same _ ?_ (final rest)
      rw [eq]
      cases passed <;> rfl

/-- A reader that passes some bytes, reads a part and makes something of it fits the grammar if the
reader of the part does. -/
lemma Outcome.after {α β} {read : Reader α} {spells : Spelling α} {read' : Reader β}
    {spells' : Spelling β} {c c'} (h : Outcome read spells c' (read c'))
    (taken : Bytes) (make : α → Nat → β)
    (hrest : c.rest = taken ++ c'.rest) (hpos : c'.pos = c.pos + taken.length)
    (eq : ∀ rest, rest.head? = c'.rest.head? → read' ⟨taken ++ rest, c.pos⟩ =
      (read ⟨rest, c'.pos⟩).map fun x => (make x.1 x.2.pos, x.2))
    (spelled : ∀ {b a}, spells c'.pos b a →
      spells' c.pos (taken ++ b) (make a (c'.pos + b.length))) :
    Outcome read' spells' c (read' c) := by
  have here : read' c = (read c').map fun x => (make x.1 x.2.pos, x.2) := by
    rw [← eq c'.rest rfl, ← hrest]
  rw [here]
  generalize hx : read c' = x at h
  cases h with
  | ok b rest a eq sp =>
    have len : c'.pos + b.length = c.pos + (taken ++ b).length := by
      rw [hpos, List.length_append, Nat.add_assoc]
    simp only [Except.map, len]
    refine .ok (taken ++ b) rest _ ?_ (len ▸ spelled sp)
    rw [hrest, eq, List.append_assoc]
  | @error e fail =>
    refine .error (fail.after taken hrest hpos ?_ ?_)
    · intro b a sp
      refine ⟨[], make a (c'.pos + b.length), ?_⟩
      rw [List.append_nil]
      exact spelled sp
    · intro rest hd err
      rw [eq rest hd, err]
      rfl

/-- Reads something and makes something of it. -/
def Reader.map {α β} (f : α → β) (read : Reader α) : Reader β := fun c =>
  (read c).map fun x => (f x.1, x.2)

/-- What is made of what a grammar spells. -/
def Image {α β} (f : α → β) (spells : Spelling α) : Spelling β := fun pos b r =>
  ∃ a, spells pos b a ∧ f a = r

/-- What is read off a cursor may be changed into something else. -/
lemma Outcome.map {α β} {read : Reader α} {spells : Spelling α} {c : Cursor} (f : α → β)
    (h : Outcome read spells c (read c)) :
    Outcome (read.map f) (Image f spells) c (read.map f c) :=
  h.after [] (fun a _ => f a) rfl rfl (fun _ _ => rfl) fun sp => ⟨_, sp, rfl⟩

/-- A part and then a second one, which may depend on what the first spells. -/
inductive Sequel {α β} (first : Spelling α) (second : α → Spelling β) (pos : Nat) :
    Bytes → β → Prop where
  | intro {b a b' r} :
    first pos b a →
    second a (pos + b.length) b' r →
    Sequel first second pos (b ++ b') r

/-- After an error, nothing follows. -/
lemma bind_error {ε α β} {x : Except ε α} {f : α → Except ε β} {e} (h : x = .error e) :
    (x >>= f) = .error e := by
  rw [h]; rfl

/-- After a result, the rest follows. -/
lemma bind_ok {ε α β} {x : Except ε α} {f : α → Except ε β} {a} (h : x = .ok a) :
    (x >>= f) = f a := by
  rw [h]; rfl

/-- Reading two parts in a row, of which the second can always be written. -/
lemma Outcome.bind {α β} {read : Reader α} {first : Spelling α} (hr : Reads read first)
    {next : α → Reader β} {second : α → Spelling β} {c : Cursor}
    (hn : ∀ {a c'}, read c = .ok (a, c') → Outcome (next a) (second a) c' (next a c'))
    (complete : ∀ {pos b a}, first pos b a → ∃ b' r, second a (pos + b.length) b' r) :
    Outcome (fun c => read c >>= fun x => next x.1 x.2) (Sequel first second) c
      (read c >>= fun x => next x.1 x.2) := by
  -- the first reader fails, or the second goes on from the cursor that it leaves
  cases hx : read c with
  | error e =>
    refine .error ((hr.fails hx).after [] rfl rfl ?_ fun rest _ err => bind_error err)
    intro b a sp
    obtain ⟨b', r, sp'⟩ := complete sp
    exact ⟨b', r, .intro sp sp'⟩
  | ok x =>
    obtain ⟨a, c'⟩ := x
    obtain ⟨b, hrest, hpos, sp⟩ := hr.sound hx
    have out := hn hx
    change Outcome _ _ c (next a c')
    generalize hy : next a c' = y at out
    cases out with
    | ok b' rest r eq sp' =>
      have len : c'.pos + b'.length = c.pos + (b ++ b').length := by
        rw [hpos, List.length_append, Nat.add_assoc]
      rw [len]
      refine .ok (b ++ b') rest r ?_ (.intro sp (hpos ▸ sp'))
      rw [hrest, eq, List.append_assoc]
    | error fail =>
      refine .error (fail.after b hrest hpos ?_ ?_)
      · intro b' r sp'
        refine ⟨[], r, ?_⟩
        rw [List.append_nil]
        exact .intro sp (hpos ▸ sp')
      · intro rest _ err
        rw [hpos] at err
        exact (bind_ok (hr.accepts sp rest)).trans err

/-- Two readers in a row fit the two parts in a row. -/
lemma Reads.bind {α β} {read : Reader α} {first : Spelling α} (hr : Reads read first)
    {next : α → Reader β} {second : α → Spelling β} (hn : ∀ a, Reads (next a) (second a))
    (complete : ∀ {pos b a}, first pos b a → ∃ b' r, second a (pos + b.length) b' r) :
    Reads (fun c => read c >>= fun x => next x.1 x.2) (Sequel first second) where
  accepts := by
    rintro pos _ r ⟨sp, sp'⟩ rest
    rw [List.append_assoc, bind_ok (hr.accepts sp _), (hn _).accepts sp', List.length_append,
      Nat.add_assoc]
  outcome _ := .bind hr (fun {a c'} _ => (hn a).outcome c') complete

/-- A reader stays sound when what it reads is changed into something else. -/
lemma Reads.map {α β} {read : Reader α} {spells : Spelling α} (f : α → β)
    (hr : Reads read spells) : Reads (read.map f) (Image f spells) where
  accepts := by
    rintro pos b _ ⟨a, sp, rfl⟩ rest
    rw [Reader.map, hr.accepts sp]
    rfl
  outcome c := .map f (hr.outcome c)

/-- A reader reads any spelling that agrees with its own. -/
lemma Reads.congr {α} {read : Reader α} {spells spells' : Spelling α} (hr : Reads read spells)
    (iff : ∀ {pos b a}, spells pos b a ↔ spells' pos b a) : Reads read spells' := by
  have eq : spells = spells' := by
    funext pos b a
    exact propext iff
  exact eq ▸ hr

/-! ## Numbers -/

/-- The digits are ten bytes in a row. -/
lemma isDigit_iff {d} : Cursor.isDigit d = true ↔ 0x30 ≤ d ∧ d ≤ 0x39 := by
  simp [Cursor.isDigit]

/-- Digits are counted up as the positional system has it. -/
lemma digitsValue_eq (ds : Bytes) :
    Cursor.digitsValue ds = Nat.ofDigits 10 (ds.reverse.map fun d => d.toNat - 0x30) := by
  rw [Cursor.digitsValue, Nat.ofDigits_eq_foldr, List.foldl_eq_foldr_reverse, List.foldr_map]
  congr 1
  funext d n
  simp only [Nat.cast_id]
  omega

/-- More than 18 digits are too many, whatever follows them. -/
lemma number_of_many {ds : Bytes} (digits : ∀ d ∈ ds, Cursor.isDigit d) (many : 18 < ds.length)
    (rest : Bytes) (pos : Nat) :
    Walk.number.read ⟨ds ++ rest, pos⟩ = .error (.tooManyDigits (pos + 18)) := by
  have long : maxDigits < ((ds ++ rest).takeWhile Cursor.isDigit).length := by
    rw [List.takeWhile_append_of_pos digits, List.length_append]
    exact Nat.lt_add_right _ many
  rw [Walk.number, Walk.read_rest_bind, Walk.read_skip_bind, if_pos long, Walk.read_stop,
    Nat.min_eq_right long.le]
  rfl

/-- Up to 18 digits that no further digit follows are a number, unless there is none. -/
lemma number_of_few {ds : Bytes} (digits : ∀ d ∈ ds, Cursor.isDigit d) (few : ds.length ≤ 18)
    {tail : Bytes} (last : ∀ b ∈ tail.head?, Cursor.isDigit b = false) (pos : Nat) :
    Walk.number.read ⟨ds ++ tail, pos⟩ =
      if ds = [] then .error (.emptyNumber pos)
      else .ok (Cursor.digitsValue ds, ⟨tail, pos + ds.length⟩) := by
  have run : (ds ++ tail).takeWhile Cursor.isDigit = ds := by
    rw [List.takeWhile_append_of_pos digits]
    cases tail with
    | nil => simp
    | cons b tail => simp [last b rfl]
  have few' : ¬ maxDigits < ds.length := Nat.not_lt.mpr few
  have all : min ds.length maxDigits = ds.length := Nat.min_eq_left few
  rw [Walk.number, Walk.read_rest_bind, Walk.read_skip_bind]
  simp only [run, if_neg few', all, List.isEmpty_iff, Cursor.advance, List.drop_left]
  by_cases none : ds = []
  · subst none
    rfl
  · rw [if_neg none, if_neg none]
    rfl

/-- Walks over a number and the byte that must end it. -/
def Walk.numberTo (wanted : UInt8) (part : Part) : Walk Nat := do
  let n ← number
  expect wanted part
  return n

/-- The digits of a number and the byte that ends it. -/
def NumberTo (wanted : UInt8) : Spelling Nat := fun _ b n =>
  ∃ ds, b = ds ++ [wanted] ∧ Number ds n

/-- Without a digit, there is no number. -/
lemma numberTo_of_none {wanted part} {tail : Bytes}
    (last : ∀ b ∈ tail.head?, Cursor.isDigit b = false) (pos : Nat) :
    (Walk.numberTo wanted part).read ⟨tail, pos⟩ = .error (.emptyNumber pos) :=
  (Walk.read_bind ..).trans (bind_error (@number_of_few [] (by simp) (by simp) _ last pos))

/-- A number is refused at its nineteenth digit. -/
lemma numberTo_of_many {wanted part} {ds : Bytes} (digits : ∀ d ∈ ds, Cursor.isDigit d)
    (many : 18 < ds.length) (rest : Bytes) (pos : Nat) :
    (Walk.numberTo wanted part).read ⟨ds ++ rest, pos⟩ = .error (.tooManyDigits (pos + 18)) :=
  (Walk.read_bind ..).trans (bind_error (number_of_many digits many rest pos))

/-- After the digits of a number the byte that ends it is looked for. -/
lemma numberTo_of_digits {wanted part} {ds : Bytes} (digits : ∀ d ∈ ds, Cursor.isDigit d)
    (nonempty : ds ≠ []) (few : ds.length ≤ 18) {tail : Bytes}
    (last : ∀ b ∈ tail.head?, Cursor.isDigit b = false) (pos : Nat) :
    (Walk.numberTo wanted part).read ⟨ds ++ tail, pos⟩ =
      ((Walk.expect wanted part).read ⟨tail, pos + ds.length⟩).map
        fun x => (Cursor.digitsValue ds, x.2) := by
  rw [Walk.numberTo, Walk.read_bind,
    bind_ok ((number_of_few digits few last pos).trans (if_neg nonempty)), Walk.read_bind]
  cases (Walk.expect wanted part).read ⟨tail, pos + ds.length⟩ <;> rfl

/-- The byte that must end a part is stepped over. -/
lemma expect_wanted (wanted : UInt8) (part : Part) (rest : Bytes) (pos : Nat) :
    (Walk.expect wanted part).read ⟨wanted :: rest, pos⟩ = .ok ((), ⟨rest, pos + 1⟩) := by
  rw [Walk.expect, Walk.read_rest_bind]
  simp only [if_true]
  rfl

/-- Another byte in place of the one that must end a part is refused. -/
lemma expect_other {wanted b : UInt8} (other : b ≠ wanted) (part : Part) (rest : Bytes)
    (pos : Nat) :
    (Walk.expect wanted part).read ⟨b :: rest, pos⟩ = .error (.unexpectedByte pos b part) := by
  rw [Walk.expect, Walk.read_rest_bind]
  simp only [if_neg other]
  rfl

/-- Up to eighteen digits spell the number that they add up to. -/
lemma Number.of_digits {ds} (digits : ∀ d ∈ ds, Cursor.isDigit d) (nonempty : ds ≠ [])
    (few : ds.length ≤ 18) : Number ds (Cursor.digitsValue ds) where
  digit d hd := isDigit_iff.mp (digits d hd)
  nonempty := List.length_pos_iff.mpr nonempty
  short := few
  value := (digitsValue_eq ds).symm

/-- Any bytes begin with some digits, perhaps none, and go on without one. -/
lemma exists_digits (b : Bytes) :
    ∃ ds tail, b = ds ++ tail ∧ (∀ d ∈ ds, Cursor.isDigit d) ∧
      ∀ x ∈ tail.head?, Cursor.isDigit x = false := by
  refine ⟨b.takeWhile Cursor.isDigit, b.dropWhile Cursor.isDigit,
    List.takeWhile_append_dropWhile.symm, fun d hd => List.mem_takeWhile_imp hd, ?_⟩
  intro x hx
  have := List.head?_dropWhile_not Cursor.isDigit b
  rw [hx] at this
  simpa using this

section NumberTo

variable {wanted : UInt8} {part : Part} {ds : Bytes}

/-- Without a digit the number is missing at the first byte. -/
lemma outcome_of_none {tail : Bytes} (last : ∀ b ∈ tail.head?, Cursor.isDigit b = false)
    (pos : Nat) :
    Outcome (Walk.numberTo wanted part).read (NumberTo wanted) ⟨tail, pos⟩
      ((Walk.numberTo wanted part).read ⟨tail, pos⟩) := by
  have some_number : NumberTo wanted pos ['0'.toUInt8, wanted] 0 := ⟨_, rfl, .zero⟩
  rw [numberTo_of_none last]
  cases tail with
  | nil => exact .error (.lacking _ 0 rfl (Nat.le_refl _) some_number)
  | cons b later =>
    refine .error (.refused [] b later _ 0 ?_ rfl rfl some_number fun later => ?_)
    · simp [Error.LacksInput, Cursor.stop]
    · exact numberTo_of_none (by simpa using last b rfl) pos

/-- After a run of digits of the right length it depends on the byte that must end it. -/
lemma outcome_of_digits (digits : ∀ d ∈ ds, Cursor.isDigit d) (nonempty : ds ≠ [])
    (few : ds.length ≤ 18) {tail : Bytes} (last : ∀ b ∈ tail.head?, Cursor.isDigit b = false)
    (pos : Nat) :
    Outcome (Walk.numberTo wanted part).read (NumberTo wanted) ⟨ds ++ tail, pos⟩
      ((Walk.numberTo wanted part).read ⟨ds ++ tail, pos⟩) := by
  have num := Number.of_digits digits nonempty few
  rw [numberTo_of_digits digits nonempty few last]
  -- the byte after the digits is missing, the wanted one, or another one
  cases tail with
  | nil =>
    refine .error (.lacking [wanted] _ trivial ?_ ⟨ds, by simp, num⟩)
    simp [Error.offset, Cursor.stop]
  | cons b later =>
    by_cases hb : b = wanted
    · subst hb
      rw [expect_wanted, Except.map, Nat.add_assoc]
      have len : (ds ++ [b]).length = ds.length + 1 := by simp
      exact len ▸ .ok (ds ++ [b]) later _ (by simp) ⟨ds, rfl, num⟩
    · rw [expect_other hb]
      refine .error (.refused ds b later [wanted] _ id rfl rfl ⟨ds, rfl, num⟩ fun later => ?_)
      rw [numberTo_of_digits digits nonempty few (by simpa using last b rfl)]
      rw [expect_other hb]
      rfl

/-- Of too many digits the nineteenth is refused; the eighteen before it are a number. -/
lemma outcome_of_many (digits : ∀ d ∈ ds, Cursor.isDigit d) (many : 18 < ds.length)
    (tail : Bytes) (pos : Nat) :
    Outcome (Walk.numberTo wanted part).read (NumberTo wanted) ⟨ds ++ tail, pos⟩
      ((Walk.numberTo wanted part).read ⟨ds ++ tail, pos⟩) := by
  obtain ⟨first, bad, later, rfl, len⟩ :
      ∃ first bad later, ds = first ++ bad :: later ∧ first.length = 18 :=
    ⟨ds.take 18, ds[18], ds.drop 19, by simp, by simpa using many.le⟩
  have num : Number first _ := .of_digits (fun d hd => digits d (by simp [hd]))
    (by rintro rfl; cases len) len.le
  rw [numberTo_of_many digits many]
  refine .error (.refused first bad (later ++ tail) [wanted] _ id (by simp)
    (by simp [Error.offset, len]) ⟨first, rfl, num⟩ fun rest => ?_)
  rw [List.append_cons]
  refine numberTo_of_many (fun d hd => digits d ?_) (by simp [len]) rest pos
  rw [List.append_cons]
  exact List.mem_append_left later hd

/-- Reading a number to its end fits the grammar. -/
theorem reads_numberTo (hw : Cursor.isDigit wanted = false) :
    Reads (Walk.numberTo wanted part).read (NumberTo wanted) where
  accepts := by
    rintro pos _ n ⟨ds, rfl, num⟩ rest
    have digits : ∀ d ∈ ds, Cursor.isDigit d := fun d hd => isDigit_iff.mpr (num.digit d hd)
    have nonempty : ds ≠ [] := List.length_pos_iff.mp num.nonempty
    rw [List.append_assoc, numberTo_of_digits digits nonempty num.short (by simpa using hw),
      (digitsValue_eq ds).trans num.value]
    simp [expect_wanted, Except.map, Nat.add_assoc]
  outcome := by
    rintro ⟨rest, pos⟩
    obtain ⟨ds, tail, rfl, digits, last⟩ := exists_digits rest
    by_cases few : ds.length ≤ 18
    · by_cases nonempty : ds = []
      · subst nonempty
        exact outcome_of_none last pos
      · exact outcome_of_digits digits nonempty few last pos
    · exact outcome_of_many digits (Nat.lt_of_not_le few) tail pos

end NumberTo

/-! ## Integers -/

/-- What follows the `i` of an integer. -/
inductive Signed (pos : Nat) : Bytes → Int → Prop where
  | positive {b n} :
    NumberTo 'e'.toUInt8 pos b n →
    Signed pos b n
  | negative {b n} :
    NumberTo 'e'.toUInt8 (pos + 1) b n →
    Signed pos ('-'.toUInt8 :: b) (-n)

/-- After its sign an integer is a number up to its end. -/
lemma integer_eq :
    Walk.integer = (do
      let negative ← Walk.sign
      let magnitude ← Walk.numberTo 'e'.toUInt8 .integerEnd
      return if negative then -(magnitude : Int) else magnitude) := by
  simp only [Walk.integer, Walk.numberTo, bind_assoc, pure_bind]

/-- Behind its sign an integer is read as a number, which the sign decides about. -/
lemma integer_of_sign {negative : Bool} {c d : Cursor} (sign : Walk.sign.read c = .ok (negative, d)) :
    Walk.integer.read c = ((Walk.numberTo 'e'.toUInt8 .integerEnd).read d).map fun x =>
      (if negative then -(x.1 : Int) else x.1, x.2) := by
  rw [integer_eq, Walk.read_bind, bind_ok sign, Walk.read_bind]
  cases (Walk.numberTo 'e'.toUInt8 .integerEnd).read d <;> rfl

/-- After a minus sign a number is read and negated. -/
lemma integer_of_minus (rest : Bytes) (pos : Nat) :
    Walk.integer.read ⟨'-'.toUInt8 :: rest, pos⟩ =
      ((Walk.numberTo 'e'.toUInt8 .integerEnd).read ⟨rest, pos + 1⟩).map
        fun x => (-(x.1 : Int), x.2) := by
  have sign : Walk.sign.read ⟨'-'.toUInt8 :: rest, pos⟩ = .ok (true, ⟨rest, pos + 1⟩) := rfl
  exact integer_of_sign sign

/-- Without a minus sign a number is read as it is. -/
lemma integer_of_plain {rest : Bytes} (h : rest.head? ≠ some '-'.toUInt8) (pos : Nat) :
    Walk.integer.read ⟨rest, pos⟩ =
      ((Walk.numberTo 'e'.toUInt8 .integerEnd).read ⟨rest, pos⟩).map fun x => ((x.1 : Int), x.2) := by
  have sign : Walk.sign.read ⟨rest, pos⟩ = .ok (false, ⟨rest, pos⟩) := by
    rw [Walk.sign, Walk.read_rest_bind]
    cases rest with
    | nil => rfl
    | cons b rest =>
      have other : b ≠ '-'.toUInt8 := by simpa using h
      simp only [if_neg other]
      rfl
  exact integer_of_sign sign

/-- A number does not begin with a minus sign. -/
lemma NumberTo.head_ne_minus {wanted pos b n} (h : NumberTo wanted pos b n) (rest : Bytes) :
    (b ++ rest).head? ≠ some '-'.toUInt8 := by
  obtain ⟨ds, rfl, num⟩ := h
  cases ds with
  | nil => exact absurd num.nonempty (by simp)
  | cons d ds =>
    intro hd
    have digit := num.digit d (by simp)
    have minus : d = '-'.toUInt8 := by simpa using hd
    rw [minus] at digit
    exact absurd digit (by decide)

/-- Reading an integer fits the grammar. -/
theorem reads_integer : Reads Walk.integer.read Signed where
  accepts := by
    intro pos b n h rest
    have num := @reads_numberTo 'e'.toUInt8 .integerEnd (by decide)
    cases h with
    | positive sp =>
      rw [integer_of_plain (sp.head_ne_minus rest), num.accepts sp]
      rfl
    | @negative b n sp =>
      rw [List.cons_append, integer_of_minus, num.accepts sp]
      simp [Except.map, Nat.add_comm, Nat.add_left_comm]
  outcome := by
    rintro ⟨rest, pos⟩
    have num := @reads_numberTo 'e'.toUInt8 .integerEnd (by decide)
    -- the first byte tells the sign
    by_cases minus : rest.head? = some '-'.toUInt8
    · obtain ⟨rest, rfl⟩ : ∃ rest', rest = '-'.toUInt8 :: rest' := by
        cases rest with
        | nil => cases minus
        | cons b rest => exact ⟨rest, by simpa using minus⟩
      refine (num.outcome ⟨rest, pos + 1⟩).after ['-'.toUInt8] (fun n _ => -(n : Int)) rfl rfl ?_ ?_
      · exact fun rest _ => integer_of_minus rest pos
      · exact .negative
    · refine (num.outcome ⟨rest, pos⟩).after [] (fun n _ => (n : Int)) rfl rfl ?_ ?_
      · exact fun rest hd => integer_of_plain (hd.trans_ne minus) pos
      · exact .positive

/-! ## Byte strings -/

/-- Walks over as many bytes as a length says. -/
def Walk.content (declared : Nat) : Walk Bytes := do
  let content := (← rest).take declared
  if content.length < declared then stop (.shortString · declared content.length)
  else
    skip declared
    return content

/-- A byte string is its length up to the colon, and then its content. -/
lemma string_eq : Walk.string = Walk.numberTo ':'.toUInt8 .lengthEnd >>= Walk.content := by
  simp only [Walk.string, Walk.numberTo, bind_assoc, pure_bind]
  rfl

/-- Content of the declared length is read. -/
lemma content_of_length {declared : Nat} {c : Cursor} (enough : declared ≤ c.rest.length) :
    (Walk.content declared).read c = .ok (c.rest.take declared, c.advance declared) := by
  have long : ¬ (c.rest.take declared).length < declared := by
    rw [List.length_take]
    omega
  rw [Walk.content, Walk.read_rest_bind, if_neg long, Walk.read_skip_bind, Walk.read_pure]

/-- Content that is too short is refused where it begins. -/
lemma content_of_short {declared : Nat} {c : Cursor} (short : c.rest.length < declared) :
    (Walk.content declared).read c = .error (.shortString c.pos declared c.rest.length) := by
  have all : c.rest.take declared = c.rest := List.take_of_length_le short.le
  rw [Walk.content, Walk.read_rest_bind]
  simp only [all, if_pos short]
  rfl

/-- Content that has the declared length. -/
def Content (declared : Nat) : Spelling Bytes := fun _ b content =>
  b = content ∧ b.length = declared

/-- Reading the content fits the grammar. -/
lemma reads_content (declared : Nat) : Reads (Walk.content declared).read (Content declared) where
  accepts := by
    rintro pos b _ ⟨rfl, rfl⟩ rest
    rw [content_of_length (by simp), List.take_left, Cursor.advance, List.drop_left]
  outcome := by
    rintro ⟨rest, pos⟩
    by_cases short : rest.length < declared
    · rw [content_of_short short]
      refine .error (.lacking (List.replicate (declared - rest.length) 0) _ trivial
        (Nat.le_add_right _ _) ⟨rfl, ?_⟩)
      simp only [List.length_append, List.length_replicate]
      omega
    · have enough : declared ≤ rest.length := Nat.not_lt.mp short
      have len : (rest.take declared).length = declared := by
        rw [List.length_take, Nat.min_eq_left enough]
      have eq := (List.take_append_drop declared rest).symm
      rw [content_of_length enough]
      simpa only [len, Cursor.advance] using Outcome.ok (rest.take declared) _ _ eq ⟨rfl, len⟩

/-- A byte string is spelled by its length and its content. -/
lemma byteString_iff {pos b content} :
    Sequel (NumberTo ':'.toUInt8) Content pos b content ↔ ByteString b content := by
  constructor
  · rintro ⟨⟨ds, rfl, num⟩, rfl, rfl⟩
    rw [← List.append_cons]
    exact .intro num
  · rintro ⟨num⟩
    rw [List.append_cons]
    exact .intro ⟨_, rfl, num⟩ ⟨rfl, rfl⟩

/-- Reading a byte string fits the grammar. -/
theorem reads_string : Reads Walk.string.read fun _ b content => ByteString b content := by
  have eq : Walk.string.read = fun c => (Walk.numberTo ':'.toUInt8 .lengthEnd).read c >>= fun x =>
      (Walk.content x.1).read x.2 := by
    funext c
    rw [string_eq, Walk.read_bind]
  rw [eq]
  refine Reads.congr ((reads_numberTo (by decide)).bind reads_content ?_) byteString_iff
  intro pos b declared _
  exact ⟨List.replicate declared 0, _, rfl, List.length_replicate⟩

end Swarm.Bencode
