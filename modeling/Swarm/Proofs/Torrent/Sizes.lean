import Mathlib.Order.Interval.Finset.Nat
import Swarm.Proofs.Bencode.Lookup
import Swarm.Proofs.Torrent.PieceSizes

/-!
# Sizes of torrents

The total of a torrent that is read and the sizes of its pieces are exact, although they are computed with
sums and products that are cut off at 64 bits. A torrent of several files is read exactly if nothing is
wrong with it and the sizes of the files add up to less than 2⁶⁴.
-/

namespace Swarm.Torrent.Metainfo

open Swarm.Bencode

/-- Nothing is wrong with a torrent file up to the content that this info dictionary has. -/
inductive Presents (source : Bytes) (info : Node) : Prop where
  | intro {root announce name pieceLength hashes} :
    decodeExact source = .ok root →
    (root.lookup? (Bytes.ofText "announce")).bind Node.text? = some announce →
    root.lookup? (Bytes.ofText "info") = some info →
    (info.lookup? (Bytes.ofText "name")).bind Node.bytes? = some name →
    (info.lookup? (Bytes.ofText "piece length")).bind size? = some pieceLength →
    0 < pieceLength →
    (info.lookup? (Bytes.ofText "pieces")).bind Node.bytes? = some hashes →
    hashes.length % 20 = 0 →
    Presents source info

/-- The info dictionary has no length, but a list of these files. -/
inductive Lists (info : Node) (files : List File) : Prop where
  | intro {nodes} :
    info.lookup? (Bytes.ofText "length") = none →
    (info.lookup? (Bytes.ofText "files")).bind Node.items? = some nodes →
    List.Forall₂ (fun n f => readFile n = .ok f) nodes files →
    Lists info files

variable {source : Bytes} {info root n : Node} {m : Metainfo} {files : List File} {index : Nat}

/-! ## Lists of files -/

/-- Files are read if each of them is, behind those that were read before. -/
lemma readFiles_eq_ok {done : List File} {nodes : List Node} :
    readFiles done nodes = .ok files ↔
      ∃ more, List.Forall₂ (fun n f => readFile n = .ok f) nodes more ∧
        done.reverse ++ more = files := by
  -- the files read so far are kept in reverse
  induction nodes generalizing done with
  | nil =>
    constructor
    · rintro ⟨⟩
      exact ⟨[], .nil, List.append_nil _⟩
    · rintro ⟨_, ⟨⟩, rfl⟩
      rw [readFiles, List.append_nil]
  | cons n nodes ih =>
    rw [readFiles]
    cases read : readFile n with
    | error e =>
      constructor
      · rintro ⟨⟩
      · rintro ⟨_, _ | ⟨first, -⟩, -⟩
        rw [read] at first
        cases first
    | ok f =>
      rw [ih]
      constructor
      · rintro ⟨more, others, rfl⟩
        exact ⟨f :: more, .cons read others, by simp⟩
      · rintro ⟨_, _ | ⟨first, others⟩, rfl⟩
        cases read.symm.trans first
        exact ⟨_, others, by simp⟩

/-- A single file never makes a total too large. -/
lemma readFile_ne_tooLarge : readFile n ≠ .error .totalTooLarge := by
  rw [readFile]
  split
  · rintro ⟨⟩
  · split <;> rintro ⟨⟩

/-- Reading the files never makes their total too large. -/
lemma readFiles_ne_tooLarge {done : List File} {nodes : List Node} :
    readFiles done nodes ≠ .error .totalTooLarge := by
  induction nodes generalizing done with
  | nil => rintro ⟨⟩
  | cons n nodes ih =>
    rw [readFiles]
    split
    · rename_i read
      rintro ⟨⟩
      exact readFile_ne_tooLarge read
    · exact ih

/-- Files are read if each of them is. -/
lemma readFiles_nil {nodes : List Node} :
    readFiles [] nodes = .ok files ↔
      List.Forall₂ (fun n f => readFile n = .ok f) nodes files := by
  rw [readFiles_eq_ok]
  exact ⟨fun ⟨_, read, eq⟩ => eq ▸ read, fun read => ⟨files, read, rfl⟩⟩

/-- Files that are listed are the content, unless their exact total is too large. -/
lemma readContent_eq_files :
    readContent info = .ok (.files files) ↔
      Lists info files ∧ (files.map File.length).sum < limit64 := by
  constructor
  · fun_cases readContent info with
    | case5 single nodes several files read total added =>
      rintro ⟨⟩
      exact ⟨.intro single several (readFiles_nil.mp read), (total?_eq_some.mp added).1 ▸
        (total?_eq_some.mp added).2⟩
    | _ => rintro ⟨⟩
  · rintro ⟨⟨single, several, read⟩, fits⟩
    simp only [readContent, single, several, readFiles_nil.mpr read, total?_eq_some.mpr ⟨rfl, fits⟩]

/-- The content is too large if the exact sum of its files is. -/
lemma readContent_eq_tooLarge :
    readContent info = .error .totalTooLarge ↔
      ∃ files, Lists info files ∧ limit64 ≤ (files.map File.length).sum := by
  constructor
  · fun_cases readContent info with
    | case4 single nodes several e read =>
      rintro ⟨⟩
      exact absurd read readFiles_ne_tooLarge
    | case6 single nodes several files read added =>
      exact fun _ => ⟨files, .intro single several (readFiles_nil.mp read), total?_eq_none.mp added⟩
    | _ => rintro ⟨⟩
  · rintro ⟨files, ⟨single, several, read⟩, excess⟩
    simp only [readContent, single, several, readFiles_nil.mpr read, total?_eq_none.mpr excess]

/-! ## Files that present their content -/

/-- Hashes are read from a multiple of twenty bytes. -/
lemma readHashes_eq_ok {b : Bytes} {hashes : List Ident} :
    readHashes b = .ok hashes ↔ b.length % 20 = 0 ∧ Ident.split b = hashes := by
  rw [readHashes]
  split <;> simp [*]

/-- Hashes never make a total too large. -/
lemma readHashes_ne_tooLarge {b : Bytes} : readHashes b ≠ .error .totalTooLarge := by
  rw [readHashes]
  split <;> rintro ⟨⟩

/-- If nothing is wrong up to the content, all depends on the content. -/
lemma Presents.ofNode (presents : Presents source info) :
    ∃ root make, decodeExact source = .ok root ∧ (∀ c : Content, (make c).content = c) ∧
      ofNode root source = (readContent info).map make := by
  obtain @⟨root, announce, name, pieceLength, hashes, decoded, url, found, named, size, positive,
    hashed, whole⟩ := presents
  obtain ⟨entries, dictionary⟩ := entries?_of_lookup? found
  obtain ⟨part, covered, -⟩ := exists_part_of_lookup? decoded found
  obtain ⟨entries', dictionary'⟩ : ∃ entries, info.entries? = some entries := by
    obtain ⟨n, there, -⟩ := Option.bind_eq_some_iff.mp named
    exact entries?_of_lookup? there
  refine ⟨root, fun content => ⟨announce, readTrackers announce root, Hash.sha1 part,
    Text.Utf8.lossy name, pieceLength, Ident.split hashes, content⟩, decoded, fun _ => rfl, ?_⟩
  have measured : ((info.lookup? (Bytes.ofText "piece length")).bind size?).filter (0 < ·) =
      some pieceLength := by
    rw [size, Option.filter_some, if_pos (decide_eq_true positive)]
  have ok_bind {α β : Type} (a : α) (f : α → Except Fault β) : (Except.ok a >>= f) = f a := rfl
  simp only [Metainfo.ofNode, require, ok_bind, dictionary, url, found, dictionary', covered, named,
    measured, hashed, readHashes_eq_ok.mpr ⟨whole, rfl⟩]
  cases readContent info <;> rfl

/-- A torrent with some content is read exactly if its file presents this content. -/
lemma exists_ofBytes {content : Content} :
    (∃ m, ofBytes source = .ok m ∧ m.content = content) ↔
      ∃ info, Presents source info ∧ readContent info = .ok content := by
  constructor
  · rintro ⟨m, read, rfl⟩
    obtain ⟨root, decoded, made⟩ := ofBytes_eq_ok.mp read
    simp only [ofNode, bind_eq_ok, require_eq_ok] at made
    obtain ⟨_, -, announce, url, info, found, _, -, _, -, name, named, pieceLength, measured,
      hashes, hashed, pieces, split, content, contained, made⟩ := made
    cases made
    obtain ⟨size, positive⟩ := Option.filter_eq_some_iff.mp measured
    exact ⟨info, .intro decoded url found named size (of_decide_eq_true positive) hashed
      (readHashes_eq_ok.mp split).1, contained⟩
  · rintro ⟨info, presents, contained⟩
    obtain ⟨root, make, decoded, keeps, made⟩ := presents.ofNode
    rw [contained] at made
    exact ⟨make content, ofBytes_eq_ok.mpr ⟨root, decoded, made⟩, keeps content⟩

/-- The sum of sizes is the last thing that is looked at, so whatever is refused for it is presented. -/
lemma ofBytes_eq_tooLarge :
    ofBytes source = .error (.metainfo .totalTooLarge) ↔
      ∃ info, Presents source info ∧ readContent info = .error .totalTooLarge := by
  constructor
  · intro refused
    obtain ⟨root, decoded, made⟩ := ofBytes_eq_error.mp refused
    simp only [ofNode, bind_eq_error, require_eq_error, require_eq_ok, readHashes_ne_tooLarge,
      reduceCtorEq, and_false, false_or, or_false, exists_false] at made
    obtain ⟨_, -, announce, url, info, found, _, -, _, -, name, named, pieceLength, measured,
      hashes, hashed, pieces, split, large⟩ := made
    obtain ⟨size, positive⟩ := Option.filter_eq_some_iff.mp measured
    exact ⟨info, .intro decoded url found named size (of_decide_eq_true positive) hashed
      (readHashes_eq_ok.mp split).1, large⟩
  · rintro ⟨info, presents, large⟩
    obtain ⟨root, make, decoded, -, made⟩ := presents.ofNode
    rw [large] at made
    exact ofBytes_eq_error.mpr ⟨root, decoded, made⟩

/-! ## Exact sizes -/

/-- The total of a torrent that is read is not cut off. -/
lemma totalSize_eq (h : ofBytes source = .ok m) : m.totalSize = m.content.size := by
  cases kind : m.content with
  | single length => rw [totalSize, kind, Content.size]
  | files files =>
    obtain ⟨info, -, contained⟩ := exists_ofBytes.mp ⟨m, h, kind⟩
    rw [totalSize_files kind, Content.size]
    exact saturate_of_lt (readContent_eq_files.mp contained).2

/-- Only an index past the end has no piece size. -/
lemma pieceSize?_eq_none : m.pieceSize? index = none ↔ m.pieceCount ≤ index := by
  rw [pieceSize?]
  split
  case isTrue inside =>
    constructor
    · rintro ⟨⟩
    · exact fun outside => absurd inside (Nat.not_lt_of_le outside)
  case isFalse outside => exact ⟨fun _ => Nat.le_of_not_lt outside, fun _ => rfl⟩

/-- Between the edges of a piece lies the part of the content that is in its stretch. -/
lemma card_stretch (m : Metainfo) (index : Nat) :
    (Finset.Ico (index * m.pieceLength) ((index + 1) * m.pieceLength) ∩
      Finset.range m.totalSize).card = m.edge (index + 1) - m.edge index := by
  rw [Finset.range_eq_Ico, Finset.Ico_inter_Ico, Nat.card_Ico, edge, edge]
  omega

/-- The first pieces are as long together as the edge after them is far. -/
lemma sum_pieceSizes (small : m.totalSize < 2 ^ 64) {count : Nat} (within : count ≤ m.pieceCount) :
    ((List.range count).filterMap m.pieceSize?).sum = m.edge count := by
  have sized : ∀ i ∈ List.range count,
      m.pieceSize? i = some (m.edge (i + 1) - m.edge i) := fun i inside =>
    pieceSize?_eq small ((List.mem_range.mp inside).trans_le within)
  rw [List.filterMap_congr sized, List.filterMap_eq_map']
  exact sum_edges count

/-- The sizes that a torrent gives are those of exact numbers, without any bound. -/
structure ExactSizes (m : Metainfo) : Prop where
  total : m.totalSize = m.content.size
  outside : ∀ i, m.pieceSize? i = none ↔ m.pieceCount ≤ i
  /-- The size of a piece is that of the part of the content in its stretch. -/
  inside : ∀ i < m.pieceCount, ∃ n, m.pieceSize? i = some n ∧
    (n : Int) = max (0 : Int)
      (min ((i + 1 : Int) * m.pieceLength) m.totalSize - (i : Int) * m.pieceLength) ∧
    n = (Finset.Ico (i * m.pieceLength) ((i + 1) * m.pieceLength) ∩
      Finset.range m.totalSize).card
  sums : ∀ k ≤ m.pieceCount,
    ((List.range k).filterMap m.pieceSize?).sum = min (k * m.pieceLength) m.totalSize

/-- The sizes of a torrent that was read are exact. -/
lemma exactSizes (h : ofBytes source = .ok m) : m.ExactSizes where
  total := totalSize_eq h
  outside i := pieceSize?_eq_none
  inside i valid := by
    refine ⟨_, pieceSize?_eq (totalSize_lt h) valid, ?_, (card_stretch m i).symm⟩
    have start : (i : Int) * m.pieceLength = (i * m.pieceLength : Nat) := rfl
    have stop : (i + 1 : Int) * m.pieceLength = ((i + 1) * m.pieceLength : Nat) := rfl
    rw [start, stop, edge, edge]
    omega
  sums k within := sum_pieceSizes (totalSize_lt h) within

/-- A torrent that is read gives exact sizes, although it computes them with numbers that are cut
off. A file is read as a torrent of several files exactly if nothing is wrong with it and the exact
sum of their sizes is less than 2⁶⁴, and it is refused for this sum exactly if nothing else is
wrong. -/
theorem ofBytes_sizes (source : Bytes) :
    (∀ m, ofBytes source = .ok m → m.ExactSizes) ∧
    (∀ files, (∃ m, ofBytes source = .ok m ∧ m.content = .files files) ↔
      (∃ info, Presents source info ∧ Lists info files) ∧
        (files.map File.length).sum < 2 ^ 64) ∧
    (ofBytes source = .error (.metainfo .totalTooLarge) ↔
      ∃ info files, Presents source info ∧ Lists info files ∧
        2 ^ 64 ≤ (files.map File.length).sum) := by
  refine ⟨fun m h => exactSizes h, fun files => ?_, ?_⟩
  -- the limit of 64 bits is 2⁶⁴ by definition
  · simp only [exists_ofBytes, readContent_eq_files, ← and_assoc, exists_and_right]
    rfl
  · simp only [ofBytes_eq_tooLarge, readContent_eq_tooLarge, exists_and_left]
    rfl

/-- Two files of 3 and 4 bytes in pieces of 4 bytes, with one piece more than they need; and files of
10¹⁸ - 1 bytes each, which are too many by one. -/
theorem ofBytes_sizes_several :
    let source :=
      Bytes.ofText "d8:announce1:a4:infod5:filesld6:lengthi3e4:pathl1:aeed6:lengthi4e4:pathl1:beee" ++
        Bytes.ofText "4:name1:d12:piece lengthi4e6:pieces60:" ++ List.replicate 60 0 ++
        Bytes.ofText "ee"
    let files (count : Nat) := Bytes.ofText "d8:announce1:a4:infod5:filesl" ++
      (List.replicate count (Bytes.ofText "d6:lengthi999999999999999999e4:pathlee")).flatten ++
        Bytes.ofText "e4:name1:d12:piece lengthi4e6:pieces0:ee"
    (∃ m, ofBytes source = .ok m ∧ m.ExactSizes ∧ m.totalSize = 7 ∧
      (List.range 4).map m.pieceSize? = [some 4, some 3, some 0, none]) ∧
    (∃ m, ofBytes (files 18) = .ok m) ∧
    ofBytes (files 19) = .error (.metainfo .totalTooLarge) ∧
    ∃ info listed, Presents (files 19) info ∧ Lists info listed ∧
      2 ^ 64 ≤ (listed.map File.length).sum := by
  intro source files
  have read {source : Bytes} {facts : Nat × List (Option Nat)}
      (h : (ofBytes source).toOption.map
        (fun m => (m.totalSize, (List.range 4).map m.pieceSize?)) = some facts) :
      ∃ m, ofBytes source = .ok m ∧ m.totalSize = facts.1 ∧
        (List.range 4).map m.pieceSize? = facts.2 := by
    cases made : ofBytes source with
    | error e =>
      rw [made] at h
      cases h
    | ok m =>
      rw [made] at h
      cases h
      exact ⟨m, rfl, rfl, rfl⟩
  obtain ⟨m, made, total, sizes⟩ :=
    @read source (7, [some 4, some 3, some 0, none]) (by decide +kernel)
  obtain ⟨m', made', -⟩ :=
    @read (files 18) (17999999999999999982, [none, none, none, none]) (by decide +kernel)
  have refused : ofBytes (files 19) = .error (.metainfo .totalTooLarge) := by decide +kernel
  exact ⟨⟨m, made, (ofBytes_sizes source).1 m made, total, sizes⟩, ⟨m', made'⟩, refused,
    (ofBytes_sizes (files 19)).2.2.mp refused⟩

end Swarm.Torrent.Metainfo
