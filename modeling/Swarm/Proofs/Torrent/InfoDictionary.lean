import Swarm.Proofs.Bencode.Stretches
import Swarm.Torrent.Metainfo

/-!
# The info dictionary

What a torrent file says about its content stands in its info dictionary. The info-hash is the hash of
the bytes of this dictionary in the file, and these bytes alone determine everything that is read from
it, wherever they stand and whatever stands around them.
-/

namespace Swarm.Torrent.Metainfo

open Swarm.Bencode

/-- The bytes of the first info dictionary of a file. -/
def infoBytes? (source : Bytes) : Option Bytes :=
  match decodeExact source with
  | .error _ => none
  | .ok root => (root.lookup? (Bytes.ofText "info")).bind (·.raw? source)

/-- The fields of the torrent that are about its content are read from this dictionary. -/
structure Describes (info : Node) (m : Metainfo) : Prop where
  dictionary : info.entries?.isSome
  name : ∃ b, (info.lookup? (Bytes.ofText "name")).bind Node.bytes? = some b ∧
    m.name = Text.Utf8.lossy b
  pieceLength : (info.lookup? (Bytes.ofText "piece length")).bind size? = some m.pieceLength ∧
    0 < m.pieceLength
  pieces : ∃ b, (info.lookup? (Bytes.ofText "pieces")).bind Node.bytes? = some b ∧
    readHashes b = .ok m.pieces
  content : readContent info = .ok m.content

/-- The torrents agree in what they say about their content. -/
structure SameContent (m m' : Metainfo) : Prop where
  infoHash : m.infoHash = m'.infoHash
  name : m.name = m'.name
  pieceLength : m.pieceLength = m'.pieceLength
  pieces : m.pieces = m'.pieces
  content : m.content = m'.content

/-! ## Reading a dictionary elsewhere -/

section
variable (f : Nat → Nat)

/-- A view that does not see the stretches sees the same under every key. -/
lemma view_relocate {α : Type} {view : Node → Option α} (blind : ∀ n, view (n.relocate f) = view n)
    (key : Bytes) (n : Node) :
    ((n.relocate f).lookup? key).bind view = (n.lookup? key).bind view := by
  rw [Node.lookup?_relocate, Option.bind_map]
  exact congrArg _ (funext blind)

/-- The items under a key of a moved node are moved. -/
lemma items_relocate (key : Bytes) (n : Node) :
    ((n.relocate f).lookup? key).bind Node.items? =
      ((n.lookup? key).bind Node.items?).map (List.map (Node.relocate f)) := by
  rw [Node.lookup?_relocate, Option.bind_map, Option.map_bind]
  exact congrArg _ (funext (Node.items?_relocate f))

/-- A size does not depend on where it stands. -/
lemma size?_relocate (n : Node) : size? (n.relocate f) = size? n := by
  rw [size?, size?, Node.int?_relocate]

/-- A file does not depend on where it stands. -/
lemma readFile_relocate (entry : Node) : readFile (entry.relocate f) = readFile entry := by
  have texts (parts : List Node) :
      (parts.map (Node.relocate f)).filterMap Node.bytes? = parts.filterMap Node.bytes? := by
    rw [List.filterMap_map]
    exact congrArg (List.filterMap · parts) (funext (Node.bytes?_relocate f))
  rw [readFile, readFile, view_relocate f (size?_relocate f), items_relocate]
  cases (entry.lookup? (Bytes.ofText "length")).bind size? with
  | none => rfl
  | some length =>
    cases (entry.lookup? (Bytes.ofText "path")).bind Node.items? with
    | none => rfl
    | some parts => simp only [Option.map_some, texts]

/-- Files do not depend on where they stand. -/
lemma readFiles_relocate (done : List File) (entries : List Node) :
    readFiles done (entries.map (Node.relocate f)) = readFiles done entries := by
  induction entries generalizing done with
  | nil => rfl
  | cons entry entries ih => simp only [List.map_cons, readFiles, readFile_relocate, ih]

/-- The content does not depend on where it stands. -/
lemma readContent_relocate (info : Node) : readContent (info.relocate f) = readContent info := by
  rw [readContent, readContent, Node.lookup?_relocate, items_relocate]
  cases info.lookup? (Bytes.ofText "length") with
  | some n => simp only [Option.map_some, size?_relocate]
  | none =>
    cases (info.lookup? (Bytes.ofText "files")).bind Node.items? with
    | none => rfl
    | some entries => simp only [Option.map_none, Option.map_some, readFiles_relocate]

/-- A moved dictionary describes the same torrent. -/
lemma Describes.relocate {info : Node} {m : Metainfo} (h : Describes info m) :
    Describes (info.relocate f) m := by
  obtain ⟨dictionary, name, pieceLength, pieces, content⟩ := h
  refine ⟨?_, ?_, ?_, ?_, ?_⟩
  · rw [Node.entries?_relocate, Option.isSome_map]
    exact dictionary
  · rw [view_relocate f (Node.bytes?_relocate f)]
    exact name
  · rw [view_relocate f (size?_relocate f)]
    exact pieceLength
  · rw [view_relocate f (Node.bytes?_relocate f)]
    exact pieces
  · rw [readContent_relocate]
    exact content

end

/-! ## Reading a torrent file -/

/-- Two steps succeed if the first does and the second does with its result. -/
lemma bind_eq_ok {ε α β : Type} {x : Except ε α} {f : α → Except ε β} {b : β} :
    (x >>= f) = .ok b ↔ ∃ a, x = .ok a ∧ f a = .ok b := by
  cases x with
  | error e => exact ⟨nofun, fun ⟨_, h, _⟩ => nomatch h⟩
  | ok a => exact ⟨fun h => ⟨a, rfl, h⟩, fun ⟨_, h, h'⟩ => by cases h; exact h'⟩

/-- What is required is there. -/
lemma require_eq_ok {α : Type} {o : Option α} {e : Fault} {a : α} :
    require o e = .ok a ↔ o = some a := by
  cases o <;> simp [require]

/-- Two steps fail if the first does, or the second does with its result. -/
lemma bind_eq_error {ε α β : Type} {x : Except ε α} {f : α → Except ε β} {e : ε} :
    (x >>= f) = .error e ↔ x = .error e ∨ ∃ a, x = .ok a ∧ f a = .error e := by
  cases x with
  | error e' =>
    constructor
    · rintro ⟨⟩
      exact .inl rfl
    · rintro (⟨⟨⟩⟩ | ⟨_, ⟨⟩, -⟩)
      rfl
  | ok a =>
    constructor
    · exact fun h => .inr ⟨a, rfl, h⟩
    · rintro (⟨⟨⟩⟩ | ⟨_, ⟨⟩, h⟩)
      exact h

/-- What is required and not there is a fault. -/
lemma require_eq_error {α : Type} {o : Option α} {e e' : Fault} :
    require o e = .error e' ↔ o = none ∧ e = e' := by
  cases o <;> simp [require]

/-- The fields of a torrent about its content are read from its info dictionary, and its hash is that
of the bytes of this dictionary. -/
lemma ofNode_describes {root : Node} {source : Bytes} {m : Metainfo}
    (h : ofNode root source = .ok m) :
    ∃ info raw, root.lookup? (Bytes.ofText "info") = some info ∧ info.raw? source = some raw ∧
      m.infoHash = Hash.sha1 raw ∧ Describes info m := by
  simp only [ofNode, bind_eq_ok, require_eq_ok] at h
  obtain ⟨_, -, _, -, info, found, _, dictionary, raw, covered, name, named, pieceLength, measured,
    hashes, hashed, pieces, split, content, contained, made⟩ := h
  cases made
  obtain ⟨size, positive⟩ := Option.filter_eq_some_iff.mp measured
  exact ⟨info, raw, found, covered, rfl, by simp [dictionary], ⟨name, named, rfl⟩,
    ⟨size, of_decide_eq_true positive⟩, ⟨hashes, hashed, split⟩, contained⟩

/-- A dictionary describes one content only. -/
lemma Describes.unique {info : Node} {m m' : Metainfo} (h : Describes info m)
    (h' : Describes info m') :
    m.name = m'.name ∧ m.pieceLength = m'.pieceLength ∧ m.pieces = m'.pieces ∧
      m.content = m'.content := by
  obtain ⟨-, ⟨name, named, eq⟩, ⟨pieceLength, -⟩, ⟨hashes, hashed, pieces⟩, content⟩ := h
  obtain ⟨-, ⟨name', named', eq'⟩, ⟨pieceLength', -⟩, ⟨hashes', hashed', pieces'⟩, content'⟩ := h'
  cases named.symm.trans named'
  cases hashed.symm.trans hashed'
  refine ⟨eq.trans eq'.symm, ?_, ?_, ?_⟩
  · exact Option.some.inj (pieceLength.symm.trans pieceLength')
  · exact Except.ok.inj (pieces.symm.trans pieces')
  · exact Except.ok.inj (content.symm.trans content')

/-- The info dictionary of a file that is read, and what its bytes are on their own. -/
structure InfoOf (source : Bytes) (m : Metainfo) (part : Bytes) (info alone : Node) : Prop where
  covered : info.raw? source = some part
  inside : part <:+: source
  infoHash : m.infoHash = Hash.sha1 part
  decoded : decodeExact part = .ok alone
  same : alone = info.relocate (· - info.span.start)
  value : alone.value = info.value
  describes : Describes info m
  describes_alone : Describes alone m

/-- A torrent is read from a document that is one. -/
lemma ofBytes_eq_ok {source : Bytes} {m : Metainfo} :
    ofBytes source = .ok m ↔
      ∃ root, decodeExact source = .ok root ∧ ofNode root source = .ok m := by
  rw [ofBytes]
  cases decodeExact source with
  | error e => simp
  | ok root => cases made : ofNode root source <;> simp [made, Except.mapError]

/-- A fault of a torrent is found in a document. -/
lemma ofBytes_eq_error {source : Bytes} {fault : Fault} :
    ofBytes source = .error (.metainfo fault) ↔
      ∃ root, decodeExact source = .ok root ∧ ofNode root source = .error fault := by
  rw [ofBytes]
  cases decodeExact source with
  | error e => simp
  | ok root => cases made : ofNode root source <;> simp [made, Except.mapError]

/-- What is found under a key in a file is made of bytes of the file that are a document on their
own. -/
lemma exists_part_of_lookup? {source key : Bytes} {root n : Node}
    (decoded : decodeExact source = .ok root) (found : root.lookup? key = some n) :
    ∃ part, n.raw? source = some part ∧ part <:+: source ∧
      decodeExact part = .ok (n.relocate (· - n.span.start)) := by
  obtain ⟨before, part, after, rfl, span, doc⟩ :=
    (document_of_decodeExact decoded).exists_alone (occurs_of_lookup? found)
  refine ⟨part, ?_, ⟨before, after, rfl⟩, doc.decodeExact⟩
  rw [Node.raw?, span]
  exact Span.slice?_append before part after

/-- A torrent is described by the part of the file that its info hash is of. -/
lemma ofBytes_infoOf {source : Bytes} {m : Metainfo} (h : ofBytes source = .ok m) :
    ∃ root info part alone, decodeExact source = .ok root ∧
      root.lookup? (Bytes.ofText "info") = some info ∧ InfoOf source m part info alone := by
  obtain ⟨root, decoded, made⟩ := ofBytes_eq_ok.mp h
  obtain ⟨info, raw, found, covered, hash, describes⟩ := ofNode_describes made
  obtain ⟨part, slice, inside, alone⟩ := exists_part_of_lookup? decoded found
  cases covered.symm.trans slice
  exact ⟨root, info, raw, _, decoded, found, covered, inside, hash, alone, rfl,
    Node.value_relocate .., describes, describes.relocate _⟩

/-- The info bytes are those that the info dictionary covers. -/
lemma infoBytes?_eq {source part : Bytes} {root info : Node}
    (decoded : decodeExact source = .ok root)
    (found : root.lookup? (Bytes.ofText "info") = some info) (covered : info.raw? source = some part) :
    infoBytes? source = some part := by
  rw [infoBytes?, decoded]
  simp only [found, Option.bind_some, covered]

/-- Files with the same info bytes say the same about their content. -/
lemma ofBytes_sameContent {source source' part : Bytes} {m m' : Metainfo} (h : ofBytes source = .ok m)
    (h' : ofBytes source' = .ok m') (bytes : infoBytes? source = some part)
    (bytes' : infoBytes? source' = some part) : SameContent m m' := by
  obtain ⟨root, info, part, alone, decoded, found, of⟩ := ofBytes_infoOf h
  obtain ⟨root', info', part', alone', decoded', found', of'⟩ := ofBytes_infoOf h'
  cases bytes.symm.trans (infoBytes?_eq decoded found of.covered)
  cases bytes'.symm.trans (infoBytes?_eq decoded' found' of'.covered)
  cases of.decoded.symm.trans of'.decoded
  obtain ⟨name, pieceLength, pieces, content⟩ := of.describes_alone.unique of'.describes_alone
  exact ⟨of.infoHash.trans of'.infoHash.symm, name, pieceLength, pieces, content⟩

/-- The same content has the same total size. -/
lemma SameContent.totalSize {m m' : Metainfo} (h : SameContent m m') :
    m.totalSize = m'.totalSize := by
  rw [Metainfo.totalSize, Metainfo.totalSize, h.content]

/-- The same content has the same piece sizes. -/
lemma SameContent.pieceSize? {m m' : Metainfo} (h : SameContent m m') (index : Nat) :
    m.pieceSize? index = m'.pieceSize? index := by
  rw [Metainfo.pieceSize?, Metainfo.pieceSize?, pieceCount, pieceCount, h.pieces, h.pieceLength,
    h.totalSize]

/-- The info-hash of a file is the hash of bytes in it that are a document on their own: the info
dictionary, with the stretches counted from its beginning, from which all fields about the content are
read. Two files in which these bytes are the same agree in the hash and in all these fields. -/
theorem ofBytes_info :
    (∀ source m, ofBytes source = .ok m →
      ∃ root info part alone, decodeExact source = .ok root ∧
        root.lookup? (Bytes.ofText "info") = some info ∧ InfoOf source m part info alone) ∧
    (∀ source source' m m' part, ofBytes source = .ok m → ofBytes source' = .ok m' →
      infoBytes? source = some part → infoBytes? source' = some part →
      SameContent m m' ∧ m.totalSize = m'.totalSize ∧
        ∀ index, m.pieceSize? index = m'.pieceSize? index) := by
  refine ⟨fun source m h => ofBytes_infoOf h, ?_⟩
  intro source source' m m' part h h' bytes bytes'
  have same := ofBytes_sameContent h h' bytes bytes'
  exact ⟨same, same.totalSize, same.pieceSize?⟩

/-- The same info dictionary after and before other entries, one of them with the same key. -/
theorem ofBytes_info_moved :
    let info := Bytes.ofText "d6:lengthi01e4:name1:n12:piece lengthi1e6:pieces0:e"
    let source := Bytes.ofText "d8:announce1:a4:info" ++ info ++ Bytes.ofText "e"
    let source' := Bytes.ofText "d4:info" ++ info ++ Bytes.ofText "8:announce02:bb4:infoi0ee"
    infoBytes? source = some info ∧ infoBytes? source' = some info ∧
      ∃ m m', ofBytes source = .ok m ∧ ofBytes source' = .ok m' ∧ m.announce = "a" ∧
        m'.announce = "bb" ∧ SameContent m m' ∧ m.infoHash = Hash.sha1 info := by
  intro info source source'
  have read {source : Bytes} {text : String}
      (h : (ofBytes source).toOption.map (·.announce) = some text) :
      ∃ m, ofBytes source = .ok m ∧ m.announce = text := by
    cases made : ofBytes source with
    | error e =>
      rw [made] at h
      cases h
    | ok m =>
      rw [made] at h
      exact ⟨m, rfl, Option.some.inj h⟩
  obtain ⟨m, made, announce⟩ := @read source "a" (by decide +kernel)
  obtain ⟨m', made', announce'⟩ := @read source' "bb" (by decide +kernel)
  have bytes : infoBytes? source = some info := by decide +kernel
  have bytes' : infoBytes? source' = some info := by decide +kernel
  obtain ⟨root, node, part, alone, decoded, found, of⟩ := ofBytes_info.1 source m made
  cases bytes.symm.trans (infoBytes?_eq decoded found of.covered)
  exact ⟨bytes, bytes', m, m', made, made', announce, announce',
    (ofBytes_info.2 source source' m m' info made made' bytes bytes').1, of.infoHash⟩

end Swarm.Torrent.Metainfo
