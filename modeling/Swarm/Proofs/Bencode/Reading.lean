import Swarm.Proofs.Bencode.Reader

/-!
# Reading documents

The items of a list and the entries of a dictionary are read in the same way, element by element up
to the byte that ends them. From this reading a value is shown to fit the grammar, by induction on
the room that is left for containers.
-/

namespace Swarm.Bencode

/-! ## Containers -/

/-- The reader passes at least one byte of what it accepts. -/
def Advances {α} (read : Reader α) : Prop :=
  ∀ ⦃c a c'⦄, read c = .ok (a, c') → c'.rest.length < c.rest.length

/-- What the grammar spells begins with a byte that does not end a container. -/
def Begins {α} (spells : Spelling α) : Prop :=
  ∀ ⦃pos b a⦄, spells pos b a → ∃ x later, b = x :: later ∧ x ≠ 'e'.toUInt8

/-- Reads so many elements at most, up to the byte that ends their container. -/
def Cursor.elementsFrom {α} (part : Part) (element : Reader α) : (fuel : Nat) → Reader (List α)
  | 0, c => .error (.unexpectedEnd c.pos part)
  | fuel + 1, c =>
    match c.rest with
    | [] => .error (.unexpectedEnd c.pos part)
    | b :: _ =>
      if b = 'e'.toUInt8 then .ok ([], c.advance 1)
      else element c >>= fun x => Reader.map (x.1 :: ·) (elementsFrom part element fuel) x.2

/-- Reads elements up to the byte that ends their container. -/
def Cursor.elements {α} (part : Part) (element : Reader α) : Reader (List α) := fun c =>
  elementsFrom part element (c.rest.length + 1) c

/-- Reads an element and those after it, up to the byte that ends their container. -/
def Cursor.elementFirst {α} (part : Part) (element : Reader α) : Reader (List α) := fun c =>
  element c >>= fun x => Reader.map (x.1 :: ·) (elements part element) x.2

/-- The elements of a container and the byte that ends it. -/
inductive Elements {α} (spells : Nat → Nat → Bytes → α → Prop) (room pos : Nat) :
    Bytes → List α → Prop where
  | intro {b as} :
    Sequence spells pos room b as →
    Elements spells room pos (b ++ ['e'.toUInt8]) as

/-- A reader of spellings that begin with some byte takes at least one. -/
lemma Reads.advances {α} {read : Reader α} {spells : Spelling α} (hr : Reads read spells)
    (hb : Begins spells) : Advances read := by
  intro c a c' h
  obtain ⟨b, hrest, _, sp⟩ := hr.sound h
  obtain ⟨x, later, rfl, _⟩ := hb sp
  rw [hrest]
  simp only [List.length_append, List.length_cons]
  omega

section Elements

variable {α : Type} {part : Part} {element : Reader α}

/-- More fuel than there are bytes changes nothing. -/
lemma elementsFrom_fuel (adv : Advances element) {fuel fuel' : Nat} {c : Cursor}
    (h : c.rest.length < fuel) (h' : c.rest.length < fuel') :
    c.elementsFrom part element fuel = c.elementsFrom part element fuel' := by
  -- every element takes a byte, so that more fuel than there are bytes never runs out
  induction fuel generalizing fuel' c with
  | zero => cases h
  | succ fuel ih =>
    cases fuel' with
    | zero => cases h'
    | succ fuel' =>
      obtain ⟨rest, pos⟩ := c
      cases rest with
      | nil => rfl
      | cons b rest =>
        simp only [Cursor.elementsFrom]
        by_cases end_ : b = 'e'.toUInt8
        · rw [if_pos end_, if_pos end_]
        · rw [if_neg end_, if_neg end_]
          cases hx : element ⟨b :: rest, pos⟩ with
          | error e => rfl
          | ok x =>
            have shorter : x.2.rest.length < (b :: rest).length := adv hx
            have eq := ih (shorter.trans_le (Nat.le_of_lt_succ h))
              (shorter.trans_le (Nat.le_of_lt_succ h'))
            simp only [bind, Except.bind, Reader.map, eq]

/-- Elements that do not end are missing their end. -/
lemma elements_nil (pos : Nat) :
    Cursor.elements part element ⟨[], pos⟩ = .error (.unexpectedEnd pos part) := rfl

/-- The end of elements is taken. -/
lemma elements_end (rest : Bytes) (pos : Nat) :
    Cursor.elements part element ⟨'e'.toUInt8 :: rest, pos⟩ = .ok ([], ⟨rest, pos + 1⟩) := rfl

/-- Where elements do not end, another one is read first. -/
lemma elements_cons (adv : Advances element) {b : UInt8} (hb : b ≠ 'e'.toUInt8) (rest : Bytes)
    (pos : Nat) :
    Cursor.elements part element ⟨b :: rest, pos⟩ =
      Cursor.elementFirst part element ⟨b :: rest, pos⟩ := by
  rw [Cursor.elements, Cursor.elementsFrom, Cursor.elementFirst]
  simp only [if_neg hb]
  cases hx : element ⟨b :: rest, pos⟩ with
  | error e => rfl
  | ok x =>
    have shorter : x.2.rest.length < (b :: rest).length := adv hx
    simp only [bind, Except.bind, Reader.map, Cursor.elements]
    rw [elementsFrom_fuel adv shorter (Nat.lt_succ_self _)]

/-- An element and those after it fit the grammar where those after it do. -/
lemma outcome_elementFirst {spells : Nat → Nat → Bytes → α → Prop} {room : Nat}
    (he : Reads element (spells · room)) {c : Cursor}
    (after : ∀ {a c'}, element c = .ok (a, c') →
      Outcome (Cursor.elements part element) (Elements spells room) c' (c'.elements part element)) :
    Outcome (Cursor.elementFirst part element) (Elements spells room) c
      (c.elementFirst part element) := by
  have out : Outcome (Cursor.elementFirst part element)
      (Sequel (spells · room) fun a => Image (a :: ·) (Elements spells room)) c
      (c.elementFirst part element) := by
    refine .bind he (fun hx => .map _ (after hx)) ?_
    intro pos b a _
    exact ⟨_, _, _, .intro .nil, rfl⟩
  refine out.after [] (fun as _ => as) rfl rfl ?_ ?_
  · intro rest _
    rw [List.nil_append]
    cases Cursor.elementFirst part element ⟨rest, c.pos⟩ <;> rfl
  · rintro _ _ ⟨sp, as, ⟨sq⟩, rfl⟩
    rw [List.nil_append, ← List.append_assoc]
    exact .intro (.cons sp sq)

/-- Reading the elements of a container fits the grammar if reading an element does. -/
theorem reads_elements {spells : Nat → Nat → Bytes → α → Prop} {room : Nat}
    (he : Reads element (spells · room)) (hb : Begins (spells · room)) :
    Reads (Cursor.elements part element) (Elements spells room) where
  accepts := by
    rintro pos _ as ⟨sq⟩ rest
    rw [List.append_assoc]
    induction sq with
    | nil => exact elements_end rest _
    | @cons pos _ b a bs as sp _ ih =>
      have first := he.accepts sp (bs ++ (['e'.toUInt8] ++ rest))
      obtain ⟨x, later, rfl, hx⟩ := hb sp
      rw [List.append_assoc, List.cons_append, elements_cons (he.advances hb) hx,
        ← List.cons_append, Cursor.elementFirst, bind_ok first, Reader.map, ih he hb]
      simp only [Except.map, List.length_append, Nat.add_assoc]
  outcome := by
    intro c
    -- fewer bytes are left for the elements after the first one
    induction h : c.rest.length using Nat.strong_induction_on generalizing c with
    | _ size ih =>
      obtain ⟨rest, pos⟩ := c
      cases rest with
      | nil =>
        rw [elements_nil]
        exact .error (.lacking ['e'.toUInt8] [] trivial (Nat.le_refl _) (.intro .nil))
      | cons b rest =>
        by_cases end_ : b = 'e'.toUInt8
        · subst end_
          rw [elements_end]
          exact .ok ['e'.toUInt8] rest [] rfl (.intro .nil)
        · have adv := he.advances hb
          have out := @outcome_elementFirst _ part _ _ _ he ⟨b :: rest, pos⟩ fun {a c'} hx =>
            ih _ (h ▸ adv hx) c' rfl
          refine out.after [] (fun as _ => as) rfl rfl ?_ id
          intro rest' hd
          obtain ⟨later, rfl⟩ : ∃ later, rest' = b :: later := List.head?_eq_some_iff.mp hd
          rw [List.nil_append, elements_cons adv end_]
          cases Cursor.elementFirst part element ⟨b :: later, pos⟩ <;> rfl

end Elements

/-- What the elements of a container add to those read so far. -/
lemma elements_eq {α : Type} {part : Part} {element : Walk α} (adv : Advances element.read)
    {fuel : Bytes} {c : Cursor} (h : c.rest.length < fuel.length) (done : List α) :
    (Walk.elements part element done fuel).read c =
      (c.elements part element.read).map fun x => (done.reverse ++ x.1, x.2) := by
  -- each element takes a byte, so that the fuel lasts
  induction fuel generalizing c done with
  | nil => cases h
  | cons _ fuel ih =>
    obtain ⟨rest, pos⟩ := c
    rw [Walk.elements, Walk.read_rest_bind]
    cases rest with
    | nil => rfl
    | cons b rest =>
      by_cases end_ : b = 'e'.toUInt8
      · subst end_
        simp only [if_true]
        rw [Walk.read_skip_bind, Walk.read_pure, elements_end, Except.map, List.append_nil]
        rfl
      · simp only [if_neg end_]
        rw [elements_cons adv end_, Cursor.elementFirst, Walk.read_bind]
        cases hx : element.read ⟨b :: rest, pos⟩ with
        | error e => rfl
        | ok x =>
          obtain ⟨a, c'⟩ := x
          have shorter : c'.rest.length < (b :: rest).length := adv hx
          simp only [bind, Except.bind, Reader.map]
          rw [ih (shorter.trans_le (Nat.le_of_lt_succ h)) (a :: done)]
          cases c'.elements part element.read <;> simp [Except.map]

/-- From the first one on, all elements of a container are read. -/
lemma elements_nil_eq {α : Type} {part : Part} {element : Walk α} (adv : Advances element.read)
    (b : UInt8) (c : Cursor) :
    (Walk.elements part element [] (b :: c.rest)).read c = c.elements part element.read := by
  rw [elements_eq adv (Nat.lt_succ_self _)]
  cases c.elements part element.read <;> rfl

/-- Walks over a key and its value. -/
def Walk.keyAndValue (item : Walk Node) : Walk (Bytes × Node) := do
  let key ← string
  let node ← item
  return (key, node)

/-- An entry whose key begins with a digit is read. -/
lemma entry_of_digit (item : Walk Node) {b : UInt8} (hb : Cursor.isDigit b = true) (rest : Bytes)
    (pos : Nat) :
    (Walk.entry item).read ⟨b :: rest, pos⟩ = (Walk.keyAndValue item).read ⟨b :: rest, pos⟩ := by
  rw [Walk.entry, Walk.read_rest_bind]
  simp only [if_pos hb]
  rfl

/-- A key that does not begin with a digit is refused. -/
lemma entry_of_other (item : Walk Node) {b : UInt8} (hb : ¬ Cursor.isDigit b = true) (rest : Bytes)
    (pos : Nat) : (Walk.entry item).read ⟨b :: rest, pos⟩ = .error (.invalidKey pos b) := by
  rw [Walk.entry, Walk.read_rest_bind]
  simp only [if_neg hb]
  rfl

/-- An entry begins with a digit. -/
lemma Entry.head {spells pos room b e} (h : Entry spells pos room b e) :
    ∃ d later, b = d :: later ∧ Cursor.isDigit d = true := by
  cases h with
  | intro str _ =>
    obtain ⟨d, later, rfl, digit⟩ := str.head
    exact ⟨d, _, rfl, isDigit_iff.mpr digit⟩

/-- An entry is a key and a document after it. -/
lemma entry_iff {pos room b e} :
    Sequel (fun _ b content => ByteString b content)
      (fun key => Image (key, ·) (Document · room)) pos b e ↔ Entry Document pos room b e := by
  constructor
  · rintro ⟨str, n, doc, rfl⟩
    exact .intro str doc
  · rintro ⟨str, doc⟩
    exact .intro str ⟨_, doc, rfl⟩

/-- Reading a key and its value fits the grammar if reading a value does. -/
lemma reads_keyAndValue {item : Walk Node} {room : Nat} (hi : Reads item.read (Document · room)) :
    Reads (Walk.keyAndValue item).read (Entry Document · room) := by
  have eq : (Walk.keyAndValue item).read = fun c =>
      Walk.string.read c >>= fun x => Reader.map (x.1, ·) item.read x.2 := by
    funext c
    rw [Walk.keyAndValue, Walk.read_bind]
    congr 1
    funext x
    rw [Walk.read_bind, Reader.map]
    cases item.read x.2 <;> rfl
  rw [eq]
  refine Reads.congr (reads_string.bind (fun _ => hi.map _) ?_) entry_iff
  intro pos b key _
  exact ⟨_, _, _, .empty _ room, rfl⟩

/-- Reading an entry fits the grammar if reading a value does. -/
theorem reads_entry {item : Walk Node} {room : Nat} (hi : Reads item.read (Document · room)) :
    Reads (Walk.entry item).read (Entry Document · room) where
  accepts := by
    intro pos b e h rest
    have read := (reads_keyAndValue hi).accepts h rest
    obtain ⟨d, later, rfl, hd⟩ := h.head
    rwa [List.cons_append, entry_of_digit item hd, ← List.cons_append]
  outcome := by
    rintro ⟨rest, pos⟩
    have some_entry : Entry Document pos room _ _ := .intro .empty (.empty _ room)
    cases rest with
    | nil => exact .error (.lacking _ _ trivial (Nat.le_refl _) some_entry)
    | cons b rest =>
      by_cases hb : Cursor.isDigit b = true
      · refine ((reads_keyAndValue hi).outcome ⟨b :: rest, pos⟩).after [] (fun e _ => e) rfl rfl ?_ id
        intro rest' hd
        obtain ⟨later, rfl⟩ : ∃ later, rest' = b :: later := List.head?_eq_some_iff.mp hd
        rw [List.nil_append, entry_of_digit item hb]
        cases (Walk.keyAndValue item).read ⟨b :: later, pos⟩ <;> rfl
      · rw [entry_of_other item hb]
        exact .error (.refused [] b rest _ _ id rfl rfl some_entry fun _ =>
          entry_of_other item hb _ _)

/-! ## Values -/

/-- How what stands inside a container is read, and the room for it. -/
inductive Inside : Option (Walk Node) → Nat → Prop where
  | none : Inside none 0
  | some {item room} :
    Reads item.read (Document · room) →
    Inside (some item) (room + 1)

/-- A document begins with a byte that does not end a container. -/
lemma begins_document (room : Nat) : Begins (Document · room) :=
  fun _ _ _ h => h.head

/-- An entry begins with the digit of its key. -/
lemma begins_entry (room : Nat) : Begins (Entry Document · room) := by
  intro pos b e h
  obtain ⟨d, later, eq, hd⟩ := h.head
  refine ⟨d, later, eq, ?_⟩
  rintro rfl
  cases hd

/-- What is made of a part and of the place where it ends. -/
lemma read_spanned {α : Type} (w : Walk α) (make : Nat → α → Node) (c : Cursor) :
    Walk.read (do
      let a ← w
      return make (← Walk.pos) a) c = (w.read c).map fun x => (make x.2.pos x.1, x.2) := by
  rw [Walk.read_bind]
  cases w.read c <;> rfl

section
variable (inner : Option (Walk Node)) (rest : Bytes) (pos : Nat)

/-- After an `i` comes an integer. -/
lemma valueWith_integer :
    (Walk.valueWith inner).read ⟨'i'.toUInt8 :: rest, pos⟩ =
      (Walk.integer.read ⟨rest, pos + 1⟩).map fun x => (.integer ⟨pos, x.2.pos⟩ x.1, x.2) := by
  rw [Walk.valueWith, Walk.read_pos_bind, Walk.read_rest_bind]
  simp only [if_true, Walk.read_skip_bind]
  exact read_spanned _ (fun stop n => .integer ⟨pos, stop⟩ n) _

/-- With a digit a byte string begins. -/
lemma valueWith_bytes {b : UInt8} (hb : Cursor.isDigit b = true) :
    (Walk.valueWith inner).read ⟨b :: rest, pos⟩ =
      (Walk.string.read ⟨b :: rest, pos⟩).map fun x => (.bytes ⟨pos, x.2.pos⟩ x.1, x.2) := by
  have hi : b ≠ 'i'.toUInt8 := by rintro rfl; cases hb
  rw [Walk.valueWith, Walk.read_pos_bind, Walk.read_rest_bind]
  simp only [if_neg hi, if_pos hb]
  exact read_spanned _ (fun stop content => .bytes ⟨pos, stop⟩ content) _

/-- After an `l` come the items of a list. -/
lemma valueWith_list {item : Walk Node} (adv : Advances item.read) :
    (Walk.valueWith (some item)).read ⟨'l'.toUInt8 :: rest, pos⟩ =
      (Cursor.elements .list item.read ⟨rest, pos + 1⟩).map
        fun x => (.list ⟨pos, x.2.pos⟩ x.1, x.2) := by
  have other : 'l'.toUInt8 ≠ 'i'.toUInt8 := by decide
  have noDigit : Cursor.isDigit 'l'.toUInt8 ≠ true := by decide
  rw [Walk.valueWith, Walk.read_pos_bind, Walk.read_rest_bind]
  simp only [if_neg other, if_neg noDigit, if_true, Walk.read_skip_bind]
  refine (read_spanned _ (fun stop ns => .list ⟨pos, stop⟩ ns) _).trans ?_
  rw [← elements_nil_eq adv 'l'.toUInt8]
  rfl

/-- After a `d` come the entries of a dictionary. -/
lemma valueWith_dict {item : Walk Node} (adv : Advances (Walk.entry item).read) :
    (Walk.valueWith (some item)).read ⟨'d'.toUInt8 :: rest, pos⟩ =
      (Cursor.elements .dict (Walk.entry item).read ⟨rest, pos + 1⟩).map
        fun x => (.dict ⟨pos, x.2.pos⟩ x.1, x.2) := by
  have other : 'd'.toUInt8 ≠ 'i'.toUInt8 := by decide
  have noDigit : Cursor.isDigit 'd'.toUInt8 ≠ true := by decide
  have noList : 'd'.toUInt8 ≠ 'l'.toUInt8 := by decide
  rw [Walk.valueWith, Walk.read_pos_bind, Walk.read_rest_bind]
  simp only [if_neg other, if_neg noDigit, if_neg noList, if_true, Walk.read_skip_bind]
  refine (read_spanned _ (fun stop es => .dict ⟨pos, stop⟩ es) _).trans ?_
  rw [← elements_nil_eq adv 'd'.toUInt8]
  rfl

/-- With any other byte no value begins. -/
lemma valueWith_other {b : UInt8} (hi : b ≠ 'i'.toUInt8) (hb : ¬ Cursor.isDigit b = true)
    (hl : b ≠ 'l'.toUInt8) (hd : b ≠ 'd'.toUInt8) :
    (Walk.valueWith inner).read ⟨b :: rest, pos⟩ = .error (.unexpectedByte pos b .value) := by
  rw [Walk.valueWith, Walk.read_pos_bind, Walk.read_rest_bind]
  simp only [if_neg hi, if_neg hb, if_neg hl, if_neg hd]
  rfl

end

/-- An integer is a document from its `i` on. -/
lemma Signed.document {pos room b n} (h : Signed (pos + 1) b n) :
    Document pos room ('i'.toUInt8 :: b) (.integer ⟨pos, pos + 1 + b.length⟩ n) := by
  cases h with
  | positive sp =>
    obtain ⟨ds, rfl, num⟩ := sp
    have doc := @Document.positive pos room _ _ num
    simpa [Nat.add_assoc, Nat.add_comm, Nat.add_left_comm] using doc
  | negative sp =>
    obtain ⟨ds, rfl, num⟩ := sp
    have doc := @Document.negative pos room _ _ num
    simpa [Nat.add_assoc, Nat.add_comm, Nat.add_left_comm] using doc

/-- Elements after the opening byte of a list make it a document. -/
lemma Elements.list {pos room b ns} (h : Elements Document room (pos + 1) b ns) :
    Document pos (room + 1) ('l'.toUInt8 :: b) (.list ⟨pos, pos + 1 + b.length⟩ ns) := by
  cases h with
  | intro sq => simpa [Nat.add_comm, Nat.add_left_comm] using Document.list sq

/-- Entries after the opening byte of a dictionary make it a document. -/
lemma Elements.dict {pos room b es} (h : Elements (Entry Document) room (pos + 1) b es) :
    Document pos (room + 1) ('d'.toUInt8 :: b) (.dict ⟨pos, pos + 1 + b.length⟩ es) := by
  cases h with
  | intro sq => simpa [Nat.add_comm, Nat.add_left_comm] using Document.dict sq

section Values

variable {inner : Option (Walk Node)} {room : Nat}

/-- A document is read as its node, whatever follows it. -/
lemma valueWith_accepts (h : Inside inner room) {pos b n} (doc : Document pos room b n)
    (rest : Bytes) :
    (Walk.valueWith inner).read ⟨b ++ rest, pos⟩ = .ok (n, ⟨rest, pos + b.length⟩) := by
  cases doc with
  | @positive _ _ ds n num =>
    have sp : Signed (pos + 1) (ds ++ ['e'.toUInt8]) n := .positive ⟨ds, rfl, num⟩
    refine (valueWith_integer inner (ds ++ ['e'.toUInt8] ++ rest) pos).trans ?_
    rw [reads_integer.accepts sp]
    simp [Except.map, Nat.add_comm, Nat.add_left_comm]
  | @negative _ _ ds n num =>
    have sp : Signed (pos + 1) ('-'.toUInt8 :: (ds ++ ['e'.toUInt8])) (-n) :=
      .negative ⟨ds, rfl, num⟩
    refine (valueWith_integer inner ('-'.toUInt8 :: (ds ++ ['e'.toUInt8]) ++ rest) pos).trans ?_
    rw [reads_integer.accepts sp]
    simp [Except.map, Nat.add_assoc, Nat.add_comm, Nat.add_left_comm]
  | bytes str =>
    have read : Walk.string.read ⟨b ++ rest, pos⟩ = _ := reads_string.accepts str rest
    obtain ⟨d, later, rfl, digit⟩ := str.head
    rw [List.cons_append, valueWith_bytes inner _ _ (isDigit_iff.mpr digit), ← List.cons_append, read]
    rfl
  | @list _ _ b ns sq =>
    cases h with
    | some hi =>
      have el : Elements Document _ (pos + 1) (b ++ ['e'.toUInt8]) ns := .intro sq
      have adv := hi.advances (begins_document _)
      refine (valueWith_list (b ++ ['e'.toUInt8] ++ rest) pos adv).trans ?_
      rw [(reads_elements hi (begins_document _)).accepts el]
      simp [Except.map, Nat.add_comm, Nat.add_left_comm]
  | @dict _ _ b es sq =>
    cases h with
    | some hi =>
      have he := reads_entry hi
      have el : Elements (Entry Document) _ (pos + 1) (b ++ ['e'.toUInt8]) es := .intro sq
      have adv := he.advances (begins_entry _)
      refine (valueWith_dict (b ++ ['e'.toUInt8] ++ rest) pos adv).trans ?_
      rw [(reads_elements he (begins_entry _)).accepts el]
      simp [Except.map, Nat.add_comm, Nat.add_left_comm]

/-- A value answers as the part that its first byte begins. -/
lemma outcome_valueWith (h : Inside inner room) (c : Cursor) :
    Outcome (Walk.valueWith inner).read (Document · room) c ((Walk.valueWith inner).read c) := by
  obtain ⟨rest, pos⟩ := c
  have some_doc : Document pos room _ _ := .empty pos room
  cases rest with
  | nil => exact .error (.lacking _ _ trivial (Nat.le_refl _) some_doc)
  | cons b rest =>
    -- the first byte decides what is read
    by_cases hi : b = 'i'.toUInt8
    · subst hi
      refine (reads_integer.outcome ⟨rest, pos + 1⟩).after ['i'.toUInt8]
        (fun n stop => .integer ⟨pos, stop⟩ n) rfl rfl ?_ Signed.document
      exact fun rest _ => valueWith_integer inner rest pos
    by_cases hb : Cursor.isDigit b = true
    · refine (reads_string.outcome ⟨b :: rest, pos⟩).after []
        (fun content stop => .bytes ⟨pos, stop⟩ content) rfl rfl ?_ .bytes
      intro rest' hd
      obtain ⟨later, rfl⟩ : ∃ later, rest' = b :: later := List.head?_eq_some_iff.mp hd
      exact valueWith_bytes inner later pos hb
    by_cases hl : b = 'l'.toUInt8
    · subst hl
      cases h with
      | none => exact .error (.refused [] _ rest _ _ id rfl rfl some_doc fun _ => rfl)
      | @some item _ hi =>
        have el : Reads (Cursor.elements .list item.read) _ := reads_elements hi (begins_document _)
        refine (el.outcome ⟨rest, pos + 1⟩).after ['l'.toUInt8]
          (fun ns stop => .list ⟨pos, stop⟩ ns) rfl rfl ?_ Elements.list
        exact fun rest _ => valueWith_list rest pos (hi.advances (begins_document _))
    by_cases hd : b = 'd'.toUInt8
    · subst hd
      cases h with
      | none => exact .error (.refused [] _ rest _ _ id rfl rfl some_doc fun _ => rfl)
      | @some item _ hi =>
        have he := reads_entry hi
        have el : Reads (Cursor.elements .dict (Walk.entry item).read) _ :=
          reads_elements he (begins_entry _)
        refine (el.outcome ⟨rest, pos + 1⟩).after ['d'.toUInt8]
          (fun es stop => .dict ⟨pos, stop⟩ es) rfl rfl ?_ Elements.dict
        exact fun rest _ => valueWith_dict rest pos (he.advances (begins_entry _))
    · rw [valueWith_other inner rest pos hi hb hl hd]
      refine .error (.refused [] b rest _ _ id rfl rfl some_doc fun later => ?_)
      exact valueWith_other inner later pos hi hb hl hd

/-- A value is read if the values inside it are. -/
lemma reads_valueWith (h : Inside inner room) :
    Reads (Walk.valueWith inner).read (Document · room) where
  accepts := valueWith_accepts h
  outcome := outcome_valueWith h

end Values

/-- Reading a value fits the grammar. -/
theorem reads_value (room : Nat) : Reads (Walk.value room).read (Document · room) := by
  induction room with
  | zero => exact reads_valueWith .none
  | succ room ih => exact reads_valueWith (.some ih)

end Swarm.Bencode
