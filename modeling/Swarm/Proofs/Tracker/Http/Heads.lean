import Mathlib.Data.Bool.AllAny
import Mathlib.Tactic.IntervalCases
import Swarm.Proofs.Text.Lines
import Swarm.Proofs.Text.Numerals
import Swarm.Proofs.Text.Repair
import Swarm.Proofs.Tracker.Http.Truncation

/-!
# Heads of replies

A head is a status line and header lines, one of which may announce a body in chunks. Where none of the
lines is empty or broken, the head is found up to the first empty line after them, and its lines are read
as they were written, whatever ends a line: a line feed, with or without a carriage return.
-/

namespace Swarm.Tracker.Http

open Swarm.Bencode
open Swarm.Text

/-- The bytes of a first line: `HTTP/` and a version, a blank, the decimal digits of the status code,
and after another blank anything. -/
inductive StatusLine : Nat → Bytes → Prop where
  | intro {code version digits reason} :
    (∀ c ∈ Utf8.repaired version, isBlank c = false) →
    digits ≠ [] →
    (∀ d ∈ digits, 0x30 ≤ d ∧ d ≤ 0x39) →
    Nat.ofDigits 10 (digits.reverse.map fun d => d.toNat - 0x30) = code →
    code < UInt16.size →
    reason = [] ∨ [' '.toUInt8] <+: reason →
    StatusLine code (Bytes.ofText "HTTP/" ++ version ++ ' '.toUInt8 :: (digits ++ reason))

/-- The header line announces a body in chunks: its name, in any case and with blanks around it, is
`Transfer-Encoding`, and `chunked` stands in its value. -/
def AnnouncesChunks (line : Bytes) : Prop :=
  ∃ name value, Utf8.repaired line = name ++ ':' :: value ∧ ':' ∉ name ∧
    lower (trim name) = "transfer-encoding".toList ∧ "chunked".toList <:+: lower value

/-- A reply with `ending` after each line of its head and once more before its body. -/
def withHead (ending : Bytes) (ls : List Bytes) (body : Bytes) : Bytes :=
  ls.flatMap (· ++ ending) ++ (ending ++ body)

variable {code : Nat} {status line digits ending head : Bytes} {x : UInt8} {headers ls : List Bytes}

/-! ## The status line -/

/-- A digit as a byte is read as a digit and is no blank. -/
lemma digit_ofNat {d : UInt8} (h : 0x30 ≤ d ∧ d ≤ 0x39) :
    Numeral.digit? 10 (Char.ofNat d.toNat) = some (d.toNat - 0x30) ∧
      isBlank (Char.ofNat d.toNat) = false := by
  have low := UInt8.le_iff_toNat_le.mp h.1
  have high := UInt8.le_iff_toNat_le.mp h.2
  simp only [UInt8.reduceToNat] at low high
  generalize d.toNat = n at low high
  interval_cases n <;> exact ⟨rfl, rfl⟩

/-- Digits as bytes are read. -/
lemma digitsFrom?_ofNat (digit : ∀ d ∈ digits, 0x30 ≤ d ∧ d ≤ 0x39) (n : Nat) :
    Numeral.digitsFrom? 10 n (digits.map fun d => Char.ofNat d.toNat) =
      some (digits.foldl (fun n d => n * 10 + (d.toNat - 48)) n) := by
  induction digits generalizing n with
  | nil => rfl
  | cons d ds ih =>
    obtain ⟨first, others⟩ := List.forall_mem_cons.mp digit
    rw [List.map_cons, Numeral.digitsFrom?, (digit_ofNat first).1]
    exact ih others _

/-- The value of digits is the number that they spell. -/
lemma natural?_digits {limit : Nat} (nonempty : digits ≠ [])
    (digit : ∀ d ∈ digits, 0x30 ≤ d ∧ d ≤ 0x39)
    (value : Nat.ofDigits 10 (digits.reverse.map fun d => d.toNat - 0x30) = code)
    (small : code < limit) :
    Numeral.natural? 10 limit (digits.map fun d => Char.ofNat d.toNat) = some code := by
  have spelled := digitsFrom?_ofNat digit 0
  rw [show digits.foldl _ 0 = code from (digitsValue_eq digits).trans value] at spelled
  exact Numeral.natural?_eq_some (by simpa using nonempty) spelled small

/-- The status is read from a status line. -/
lemma StatusLine.statusOf (h : StatusLine code status) :
    statusOf (Utf8.repaired status) = .ok code := by
  cases h with
  | @intro version digits reason noBlank nonempty digit value small ends =>
    have first : words (Utf8.repaired (Bytes.ofText "HTTP/" ++ version)) =
        ["HTTP/".toList ++ Utf8.repaired version] := by
      have text : Utf8.repaired (Bytes.ofText "HTTP/" ++ version) =
          "HTTP/".toList ++ Utf8.repaired version :=
        Utf8.repaired_asciis (List.all_iff_forall_prop.mp (by decide)) version
      rw [text]
      have plain : ∀ c ∈ "HTTP/".toList, isBlank c = false :=
        List.all_iff_forall_prop.mp (by decide)
      exact words_word (by simp) (List.forall_mem_append.mpr ⟨plain, noBlank⟩)
    have second : ∃ more, words (Utf8.repaired (digits ++ reason)) =
        digits.map (fun d => Char.ofNat d.toNat) :: more := by
      have ascii : ∀ d ∈ digits, d < 0x80 := fun d inside =>
        UInt8.lt_of_le_of_lt (digit d inside).2 (by decide)
      have word : words (digits.map fun d => Char.ofNat d.toNat) =
          [digits.map fun d => Char.ofNat d.toNat] := by
        refine words_word (by simpa using nonempty) (List.forall_mem_map.mpr fun d inside => ?_)
        exact (digit_ofNat (digit d inside)).2
      rw [Utf8.repaired_asciis ascii]
      rcases ends with rfl | ⟨reason, rfl⟩
      · exact ⟨[], by rw [Utf8.repaired_nil, List.append_nil, word]⟩
      · refine ⟨words (Utf8.repaired reason), ?_⟩
        rw [List.singleton_append, Utf8.repaired_ascii (by decide)]
        exact (words_append rfl _ _).trans (by rw [word]; rfl)
    -- the blank keeps the version and the code apart
    obtain ⟨more, second⟩ := second
    have both : words (Utf8.repaired (Bytes.ofText "HTTP/" ++ version ++
        ' '.toUInt8 :: (digits ++ reason))) = ("HTTP/".toList ++ Utf8.repaired version) ::
          (digits.map fun d => Char.ofNat d.toNat) :: more := by
      rw [Utf8.repaired_append (by decide)]
      exact (words_append rfl _ _).trans (by rw [first, second]; rfl)
    rw [Http.statusOf, both]
    simp only [natural?_digits nonempty digit value small]
    rfl

/-- A status line that reports success. -/
lemma statusLine_ok : StatusLine 200 (Bytes.ofText "HTTP/1.0 200 OK") := by
  have line : Bytes.ofText "HTTP/1.0 200 OK" = Bytes.ofText "HTTP/" ++ Bytes.ofText "1.0" ++
      ' '.toUInt8 :: (Bytes.ofText "200" ++ Bytes.ofText " OK") := by decide +kernel
  rw [line]
  exact .intro (List.all_iff_forall_prop.mp (by decide +kernel)) (by decide)
    (List.all_iff_forall_prop.mp (by decide)) (by decide) (by decide) (by decide)

/-! ## Header lines -/

/-- A repaired line announces chunks exactly if the line does. -/
lemma announcesChunks_iff : announcesChunks (Utf8.repaired line) ↔ AnnouncesChunks line := by
  rw [announcesChunks]
  constructor
  · split
    case h_1 => nofun
    case h_2 name value found =>
      intro h
      obtain ⟨eq, unmarked⟩ := cut?_eq_some.mp found
      rw [Bool.and_eq_true, beq_iff_eq, contains_iff] at h
      exact ⟨name, value, eq, unmarked, h⟩
  · rintro ⟨name, value, eq, unmarked, h⟩
    rw [cut?_eq_some.mpr ⟨eq, unmarked⟩]
    simpa only [Bool.and_eq_true, beq_iff_eq, contains_iff] using h

/-- A line stays one when it is repaired. -/
lemma repaired_line (h : line ≠ [] ∧ '\r'.toUInt8 ∉ line ∧ '\n'.toUInt8 ∉ line) :
    Utf8.repaired line ≠ [] ∧ '\r' ∉ Utf8.repaired line ∧ '\n' ∉ Utf8.repaired line := by
  obtain ⟨nonempty, noReturn, noFeed⟩ := h
  refine ⟨Utf8.repaired_ne_nil nonempty, fun inside => noReturn ?_, fun inside => noFeed ?_⟩
  · exact Utf8.mem_of_mem_repaired (by decide) (by decide) inside
  · exact Utf8.mem_of_mem_repaired (by decide) (by decide) inside

/-- The lines of a head are read as they were written. -/
lemma lines_written (ends : ending = ['\n'.toUInt8] ∨ ending = crlf)
    (line : ∀ l ∈ ls, l ≠ [] ∧ '\r'.toUInt8 ∉ l ∧ '\n'.toUInt8 ∉ l) :
    lines (Utf8.repaired (ending.intercalate ls)) = ls.map Utf8.repaired := by
  have line' : ∀ l ∈ ls.map Utf8.repaired, l ≠ [] ∧ '\r' ∉ l ∧ '\n' ∉ l :=
    List.forall_mem_map.mpr fun l inside => repaired_line (line l inside)
  rcases ends with rfl | rfl
  · rw [Utf8.repaired_intercalate (List.all_iff_forall_prop.mp (by decide))]
    exact lines_intercalate (.inl rfl) line'
  · rw [crlf, Utf8.repaired_intercalate (List.all_iff_forall_prop.mp (by decide))]
    exact lines_intercalate (.inr rfl) line'

/-- The lines after the status line decide whether the body comes in chunks. -/
lemma inChunks_iff (read : lines (Utf8.repaired head) = (status :: headers).map Utf8.repaired) :
    inChunks head ↔ ∃ l ∈ headers, AnnouncesChunks l := by
  rw [inChunks, read, List.map_cons, List.tail_cons, List.any_map, List.any_eq_true]
  exact exists_congr fun l => and_congr_right fun _ => announcesChunks_iff

/-! ## The end of the head -/

/-- The first line of a head stands in front. -/
lemma withHead_cons (ending l : Bytes) (ls : List Bytes) (body : Bytes) :
    withHead ending (l :: ls) body = l ++ (ending ++ withHead ending ls body) := by
  simp [withHead]

/-- A line that is not empty and in which the mark does not stand comes between two line ends. -/
lemma cut?_ending (once : x ∉ ending) (nonempty : line ≠ []) (unmarked : x ∉ line) (b : Bytes) :
    Bytes.cut? (x :: (ending ++ x :: ending)) (x :: (ending ++ (line ++ b))) =
      (Bytes.cut? (x :: (ending ++ x :: ending)) (line ++ b)).map fun p =>
        (x :: (ending ++ p.1), p.2) := by
  have away : ¬ (x :: (ending ++ x :: ending)).isPrefixOf (x :: (ending ++ (line ++ b))) := by
    intro here
    obtain ⟨-, next⟩ := List.cons_prefix_cons.mp (List.isPrefixOf_iff_prefix.mp here)
    rw [List.prefix_append_right_inj] at next
    obtain ⟨y, line, rfl⟩ := List.exists_cons_of_ne_nil nonempty
    exact unmarked ((List.cons_prefix_cons.mp next).1 ▸ List.mem_cons_self)
  rw [Bytes.cut?_cons away, Bytes.cut?_skip once, Option.map_map]
  rfl

/-- The first empty line comes after the lines, if no other byte of a line end is like its first. -/
lemma cut?_withHead (once : x ∉ ending) (nonempty : ls ≠ []) (line : ∀ l ∈ ls, l ≠ [] ∧ x ∉ l)
    (body : Bytes) :
    Bytes.cut? (x :: (ending ++ x :: ending)) (withHead (x :: ending) ls body) =
      some ((x :: ending).intercalate ls, body) := by
  induction ls with
  | nil => exact absurd rfl nonempty
  | cons l ls ih =>
    obtain ⟨⟨-, unmarked⟩, others⟩ := List.forall_mem_cons.mp line
    rw [withHead_cons, List.cons_append, Bytes.cut?_skip unmarked]
    cases ls with
    | nil =>
      have here : ending ++ withHead (x :: ending) [] body = ending ++ x :: ending ++ body := by
        simp [withHead]
      rw [here, Bytes.cut?_here]
      simp
    | cons l' ls =>
      obtain ⟨nonempty', unmarked'⟩ := others l' List.mem_cons_self
      have later := ih (List.cons_ne_nil l' ls) others
      rw [withHead_cons] at later ⊢
      rw [cut?_ending once nonempty' unmarked', later, List.intercalate_cons_cons]
      simp

end Swarm.Tracker.Http
