import Swarm.Proofs.Tracker.Http.Heads

/-!
# Replies with carriage returns

A reply whose lines end with carriage returns and line feeds is taken apart as it was put together. Its
body comes as it is, or it comes in chunks, each after a line with its size in hexadecimal. Whatever
bytes a chunk holds, and be it line ends and further size lines, its size alone says where it ends.
-/

namespace Swarm.Tracker.Http

open Swarm.Text

/-- The byte is a hexadecimal digit, a letter of either case. -/
inductive HexDigit : Nat → UInt8 → Prop where
  | lower {d} : d < 16 → HexDigit d (Nat.digitChar d).toUInt8
  | upper {d} : d < 16 → HexDigit d (Nat.digitChar d).toUpper.toUInt8

/-- The bytes are hexadecimal digits of a number, with any number of leading zeros. -/
inductive Hexadecimal : Nat → Bytes → Prop where
  | first {d c} : HexDigit d c → Hexadecimal d [c]
  | next {n d ds c} : Hexadecimal n ds → HexDigit d c → Hexadecimal (n * 16 + d) (ds ++ [c])

/-- The byte is ASCII, and it neither ends a size or its line nor is a blank. -/
structure Solid (c : UInt8) : Prop where
  ascii : c < 0x80
  noReturn : c ≠ '\r'.toUInt8
  noSemicolon : Char.ofNat c.toNat ≠ ';'
  noBlank : isBlank (Char.ofNat c.toNat) = false

/-- The line tells a size in hexadecimal, perhaps with an extension after a semicolon. -/
inductive WritesSize (size : Nat) : Bytes → Prop where
  | intro {digits extension} :
    Hexadecimal size digits →
    extension = [] ∨ [';'.toUInt8] <+: extension →
    '\r'.toUInt8 ∉ extension →
    '\n'.toUInt8 ∉ extension →
    WritesSize size (digits ++ extension)

/-- The bytes are the chunks, each between the line that tells its size and a line end, and the line
of a chunk of size zero. -/
inductive Coded : List Bytes → Bytes → Prop where
  | last {line} :
    WritesSize 0 line →
    Coded [] (line ++ crlf)
  | chunk {line chunk chunks coded} :
    WritesSize chunk.length line →
    chunk ≠ [] →
    Coded chunks coded →
    Coded (chunk :: chunks) (line ++ crlf ++ (chunk ++ (crlf ++ coded)))

variable {code size d n : Nat} {c : UInt8} {status line digits coded rest body : Bytes}
variable {headers chunks : List Bytes}

/-! ## Sizes -/

/-- A hexadecimal digit is read. -/
lemma HexDigit.read (h : HexDigit d c) : Numeral.digit? 16 (Char.ofNat c.toNat) = some d := by
  cases h with
  | lower small | upper small => interval_cases d <;> rfl

/-- A hexadecimal digit ends no size. -/
lemma HexDigit.solid (h : HexDigit d c) : Solid c := by
  cases h with
  | lower small | upper small =>
    interval_cases d <;> exact ⟨by decide, by decide, by decide, by decide⟩

/-- Hexadecimal digits end no size. -/
lemma Hexadecimal.solid (h : Hexadecimal n digits) : ∀ c ∈ digits, Solid c := by
  induction h with
  | first digit => exact List.forall_mem_singleton.mpr digit.solid
  | next _ digit ih =>
    exact List.forall_mem_append.mpr ⟨ih, List.forall_mem_singleton.mpr digit.solid⟩

/-- Hexadecimal digits are read. -/
lemma Hexadecimal.read (h : Hexadecimal n digits) :
    Numeral.digitsFrom? 16 0 (digits.map fun c => Char.ofNat c.toNat) = some n := by
  induction h with
  | first digit => simp [Numeral.digitsFrom?, digit.read]
  | next _ digit ih =>
    rw [List.map_append, Numeral.digitsFrom?_append, ih]
    simp [Numeral.digitsFrom?, digit.read]

/-- A number has a hexadecimal digit. -/
lemma Hexadecimal.ne_nil (h : Hexadecimal n digits) : digits ≠ [] := by
  cases h with
  | first => exact List.cons_ne_nil _ _
  | next => exact List.append_ne_nil_of_right_ne_nil _ (List.cons_ne_nil _ _)

/-- The size is what stands before the extension. -/
lemma sizeText_digits (h : Hexadecimal n digits) {extension : Bytes}
    (ends : extension = [] ∨ [';'.toUInt8] <+: extension) :
    sizeText (digits ++ extension) = digits.map fun c => Char.ofNat c.toNat := by
  have ascii : ∀ c ∈ digits, c < 0x80 := fun c inside => (h.solid c inside).ascii
  have before : ∀ c ∈ digits.map (fun c => Char.ofNat c.toNat), (c != ';') = true :=
    List.forall_mem_map.mpr fun c inside => bne_iff_ne.mpr (h.solid c inside).noSemicolon
  have noBlank : ∀ c ∈ digits.map (fun c => Char.ofNat c.toNat), isBlank c = false :=
    List.forall_mem_map.mpr fun c inside => (h.solid c inside).noBlank
  have after : (Utf8.repaired extension).takeWhile (· != ';') = [] := by
    rcases ends with rfl | ⟨extension, rfl⟩
    · rfl
    · rw [List.singleton_append, Utf8.repaired_ascii (by decide)]
      rfl
  rw [sizeText, Utf8.repaired_asciis ascii, List.takeWhile_append_of_pos before, after,
    List.append_nil, trim_word noBlank]

/-- A line with a size and an extension is a size line. -/
lemma WritesSize.sizeLine (h : WritesSize size line) (small : size < UInt64.size) :
    SizeLine line size := by
  cases h with
  | @intro digits extension hex ends noReturn noFeed =>
    constructor
    case unbroken =>
      intro broken
      have inside : '\r'.toUInt8 ∈ digits ++ extension := broken.subset List.mem_cons_self
      rcases List.mem_append.mp inside with inside | inside
      · exact (hex.solid _ inside).noReturn rfl
      · exact noReturn inside
    case size =>
      rw [sizeText_digits hex ends]
      exact Numeral.natural?_eq_some (by simpa using hex.ne_nil) hex.read small

/-! ## Chunks -/

/-- Chunks are as long together as the body is, so each of them has a size that can be read. -/
lemma Coded.chunked (h : Coded chunks coded) (small : chunks.flatten.length < UInt64.size) :
    Chunked coded chunks := by
  induction h with
  | last sized => exact .last (sized.sizeLine (by decide))
  | chunk sized nonempty _ ih =>
    rw [List.flatten_cons, List.length_append] at small
    exact .chunk (sized.sizeLine (by omega)) nonempty (.inr rfl) (ih (by omega))

/-! ## Replies -/

/-- The head is read up to its last line, and what follows is the body as it came. -/
lemma ofBytes_of_bodyAfter (first : StatusLine code status)
    (line : ∀ l ∈ status :: headers, l ≠ [] ∧ '\r'.toUInt8 ∉ l ∧ '\n'.toUInt8 ∉ l)
    (assembled : bodyAfter (crlf.intercalate (status :: headers)) rest = .ok body) :
    Response.ofBytes (withHead crlf (status :: headers) rest) =
      .ok ⟨code, Utf8.lossy (crlf.intercalate (status :: headers)), body⟩ := by
  have found : Bytes.cut? (crlf ++ crlf) (withHead crlf (status :: headers) rest) =
      some (crlf.intercalate (status :: headers), rest) :=
    cut?_withHead (by decide) (List.cons_ne_nil _ _)
      (fun l inside => ⟨(line l inside).1, (line l inside).2.1⟩) rest
  refine ofBytes_of_parts (splitHead?_eq_some.mpr (.inl found)) ?_ assembled
  rw [lines_written (.inr rfl) line]
  exact first.statusOf

/-- A reply whose lines end with carriage returns and line feeds has its status read and its body
delivered as it was: put together if a header line announces chunks, whatever follows them, and
otherwise as it came. -/
theorem ofBytes_withHead (first : StatusLine code status)
    (line : ∀ l ∈ status :: headers, l ≠ [] ∧ '\r'.toUInt8 ∉ l ∧ '\n'.toUInt8 ∉ l) (body : Bytes) :
    ((∃ l ∈ headers, AnnouncesChunks l) → body.length < UInt64.size →
      ∀ chunks coded more, Coded chunks coded → chunks.flatten = body →
        Response.ofBytes (withHead crlf (status :: headers) (coded ++ more)) =
          .ok ⟨code, Utf8.lossy (crlf.intercalate (status :: headers)), body⟩) ∧
    ((∀ l ∈ headers, ¬ AnnouncesChunks l) →
      Response.ofBytes (withHead crlf (status :: headers) body) =
        .ok ⟨code, Utf8.lossy (crlf.intercalate (status :: headers)), body⟩) := by
  have read := lines_written (.inr rfl) line
  constructor
  · rintro announced small chunks coded more sent rfl
    refine ofBytes_of_bodyAfter first line ?_
    rw [bodyAfter, if_pos ((inChunks_iff read).mpr announced)]
    exact joinChunks_eq_ok.mpr ⟨coded, chunks, more, rfl, sent.chunked small, rfl⟩
  · intro plain
    refine ofBytes_of_bodyAfter first line ?_
    have whole : ¬ inChunks (crlf.intercalate (status :: headers)) := by
      intro announced
      obtain ⟨l, inside, announces⟩ := (inChunks_iff read).mp announced
      exact plain l inside announces
    rw [bodyAfter, if_neg whole]

/-- A body with an empty line and a size line in it, in two chunks and as it is. -/
theorem ofBytes_withHead_empty_line :
    let status := Bytes.ofText "HTTP/1.0 200 OK"
    let line := Bytes.ofText "transfer-ENCODING : gzip, Chunked"
    let body := Bytes.ofText "0\r\n\r\nabcdefgh"
    let coded := Bytes.ofText "00C;x\r\n0\r\n\r\nabcdefg\r\n1\r\nh\r\n000\r\n"
    Coded [Bytes.ofText "0\r\n\r\nabcdefg", Bytes.ofText "h"] coded ∧ AnnouncesChunks line ∧
      Response.ofBytes (withHead crlf [status, line] (coded ++ crlf)) =
        .ok ⟨200, "HTTP/1.0 200 OK\r\ntransfer-ENCODING : gzip, Chunked", body⟩ ∧
      Response.ofBytes (withHead crlf [status] body) = .ok ⟨200, "HTTP/1.0 200 OK", body⟩ := by
  intro status line body coded
  have zero : HexDigit 0 '0'.toUInt8 := .lower (d := 0) (by decide)
  have one : HexDigit 1 '1'.toUInt8 := .lower (d := 1) (by decide)
  have twelve : HexDigit 12 'C'.toUInt8 := .upper (d := 12) (by decide)
  have long : WritesSize 12 (Bytes.ofText "00C" ++ Bytes.ofText ";x") :=
    have digits := Hexadecimal.next (.next (.first zero) zero) twelve
    .intro digits (.inr (by decide)) (by decide) (by decide)
  have short : WritesSize 1 (Bytes.ofText "1" ++ []) :=
    .intro (.first one) (.inl rfl) (by decide) (by decide)
  have last : WritesSize 0 (Bytes.ofText "000" ++ []) :=
    have digits := Hexadecimal.next (.next (.first zero) zero) zero
    .intro digits (.inl rfl) (by decide) (by decide)
  have sent : Coded [Bytes.ofText "0\r\n\r\nabcdefg", Bytes.ofText "h"] coded := by
    have secondChunk : Coded [Bytes.ofText "h"] _ := .chunk short (by decide) (.last last)
    have written : Coded [Bytes.ofText "0\r\n\r\nabcdefg", Bytes.ofText "h"] _ :=
      .chunk long (by decide) secondChunk
    convert written using 1
    decide +kernel
  have announced : AnnouncesChunks line := announcesChunks_iff.mp (by decide +kernel)
  have head : Utf8.lossy (crlf.intercalate [status, line]) =
      "HTTP/1.0 200 OK\r\ntransfer-ENCODING : gzip, Chunked" := by decide +kernel
  have bare : Utf8.lossy (crlf.intercalate [status]) = "HTTP/1.0 200 OK" := by decide +kernel
  refine ⟨sent, announced, ?_, ?_⟩
  · rw [← head]
    exact (ofBytes_withHead statusLine_ok (by decide +kernel) body).1
      ⟨line, List.mem_singleton_self _, announced⟩ (by decide) _ _ crlf sent (by decide +kernel)
  · rw [← bare]
    exact (ofBytes_withHead statusLine_ok (by decide +kernel) body).2 nofun

end Swarm.Tracker.Http
