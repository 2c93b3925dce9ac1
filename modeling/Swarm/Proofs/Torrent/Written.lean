import Swarm.Proofs.Bencode.Rewriting
import Swarm.Proofs.Records
import Swarm.Proofs.Text.Encoding
import Swarm.Proofs.Torrent.Totals
import Swarm.Proofs.Torrent.Trackers

/-!
# Torrent files that were written

A torrent file says what is asked for by the entries under a few keys. In whatever order these stand, and
whatever stands under other keys, a file that is written so is read as the torrent that it describes, and
the info-hash is that of the info dictionary as it was written.
-/

namespace Swarm.Torrent.Metainfo

open Swarm.Bencode

/-- What a torrent file is to say. -/
structure Description where
  announce : String
  name : String
  pieceLength : Nat
  pieces : List Ident
  content : Content

/-- A text as a value. -/
def text (s : String) : Value := .bytes (Bytes.ofText s)

/-- The entries are those that are required, in any order, and others, none of them under a key that is
reserved. -/
inductive Laid (reserved : List String) (required : List (String × Value)) :
    List (Bytes × Value) → Prop where
  | intro {others entries} :
    (∀ e ∈ others, ∀ key ∈ reserved, e.1 ≠ Bytes.ofText key) →
    entries.Perm (required.map (fun r => (Bytes.ofText r.1, r.2)) ++ others) →
    Laid reserved required entries

/-- The dictionary stands for a file. -/
inductive WritesFile (f : File) : Value → Prop where
  | intro {entries} :
    Laid ["length", "path"]
      [("length", .integer f.length), ("path", .list (f.path.map text))] entries →
    WritesFile f (.dict entries)

/-- The entries of an info dictionary that do not depend on what kind of content it has. -/
def Description.common (d : Description) : List (String × Value) :=
  [ ("name", text d.name)
  , ("piece length", .integer d.pieceLength)
  , ("pieces", .bytes (d.pieces.flatMap Ident.bytes)) ]

/-- The dictionary says what the content is. For a single file it may have an entry `files` as well. -/
inductive WritesInfo (d : Description) : Value → Prop where
  | single {length entries} :
    d.content = .single length →
    Laid ["name", "piece length", "pieces", "length"]
      (d.common ++ [("length", .integer length)]) entries →
    WritesInfo d (.dict entries)
  | files {files vs entries} :
    d.content = .files files →
    List.Forall₂ WritesFile files vs →
    Laid ["name", "piece length", "pieces", "length", "files"]
      (d.common ++ [("files", .list vs)]) entries →
    WritesInfo d (.dict entries)

/-- The entries are those of a torrent file with the description, in which the info dictionary is this
one. -/
structure Writes (d : Description) (info : Value) (entries : List (Bytes × Value)) : Prop where
  inner : WritesInfo d info
  laid : Laid ["announce", "info"] [("announce", text d.announce), ("info", info)] entries

/-- The torrent with a description. -/
def Description.torrent (d : Description) (trackers : List String) (infoHash : Ident) : Metainfo :=
  ⟨d.announce, trackers, infoHash, d.name, d.pieceLength, d.pieces, d.content⟩

variable {d : Description} {info root v : Value} {n m : Node} {key : Bytes}
variable {entries : List (Bytes × Value)} {reserved : List String}
variable {required : List (String × Value)}

/-! ## What a node says about its value -/

/-- A node with a string for its value holds that string. -/
lemma bytes?_of_value {b : Bytes} (h : n.value = .bytes b) : n.bytes? = some b := by
  cases n <;> cases h
  rfl

/-- A node with a number for its value holds that size. -/
lemma size?_of_value {k : Nat} (h : n.value = .integer k) : size? n = some k := by
  cases n <;> cases h
  rfl

/-- A node with a list for its value holds nodes with these values. -/
lemma items?_of_value {vs : List Value} (h : n.value = .list vs) :
    ∃ ns, n.items? = some ns ∧ ns.map Node.value = vs := by
  cases n with
  | list span ns =>
    rw [Node.value, values_eq] at h
    cases h
    exact ⟨ns, rfl, rfl⟩
  | _ => cases h

/-- A node with a dictionary for its value holds entries. -/
lemma entries?_of_value (h : n.value = .dict entries) : n.entries?.isSome := by
  cases n <;> cases h
  rfl

/-- What is found under a key is the first value under this key. -/
lemma lookup?_of_value (h : n.value = .dict entries) (key : Bytes) :
    (n.lookup? key).map Node.value = (entries.find? fun e => e.1 == key).map Prod.snd := by
  cases n with
  | dict span es =>
    rw [Node.value, entryValues_eq] at h
    cases h
    rw [Node.lookup?, List.find?_map, Option.map_map, Option.map_map]
    rfl
  | _ => cases h

/-! ## Entries in any order -/

/-- The required keys are reserved, in this order, and no two reserved keys are written alike. -/
structure Separate (reserved : List String) (required : List (String × Value)) : Prop where
  names : (required.map Prod.fst).Sublist reserved
  distinct : (reserved.map Bytes.ofText).Nodup

/-- Required keys that are separate are all different. -/
lemma Separate.nodup (apart : Separate reserved required) :
    (required.map fun r => Bytes.ofText r.1).Nodup := by
  have sub := (apart.names.map Bytes.ofText).nodup apart.distinct
  rwa [List.map_map] at sub

/-- A required entry is the only one under its key. -/
lemma Laid.find? (laid : Laid reserved required entries) (apart : Separate reserved required)
    {key : String} (mem : (key, v) ∈ required) :
    (entries.find? fun e => e.1 == Bytes.ofText key) = some (Bytes.ofText key, v) := by
  obtain ⟨free, order⟩ := laid
  have inside : (Bytes.ofText key, v) ∈ entries :=
    order.mem_iff.mpr (List.mem_append_left _ (List.mem_map_of_mem mem))
  have only : ∀ e ∈ entries, e.1 = Bytes.ofText key → e = (Bytes.ofText key, v) := by
    intro e among same
    rcases List.mem_append.mp (order.mem_iff.mp among) with fixed | other
    · obtain ⟨r, listed, rfl⟩ := List.mem_map.mp fixed
      rw [List.inj_on_of_nodup_map apart.nodup listed mem same]
    · exact absurd same (free e other key (apart.names.subset (List.mem_map_of_mem mem)))
  cases found : entries.find? fun e => e.1 == Bytes.ofText key with
  | none => exact absurd (beq_self_eq_true _) (List.find?_eq_none.mp found _ inside)
  | some e =>
    have same : e.1 = Bytes.ofText key := by simpa using List.find?_some found
    rw [only e (List.mem_of_find?_eq_some found) same]

/-- No entry stands under a reserved key that is not required. -/
lemma Laid.find?_none (laid : Laid reserved required entries) (apart : Separate reserved required)
    {key : String} (known : key ∈ reserved) (free : key ∉ required.map Prod.fst) :
    (entries.find? fun e => e.1 == Bytes.ofText key) = none := by
  obtain ⟨unreserved, order⟩ := laid
  refine List.find?_eq_none.mpr fun e among same => ?_
  have same : e.1 = Bytes.ofText key := eq_of_beq same
  rcases List.mem_append.mp (order.mem_iff.mp among) with fixed | other
  · obtain ⟨r, listed, rfl⟩ := List.mem_map.mp fixed
    have name : r.1 ∈ required.map Prod.fst := List.mem_map_of_mem listed
    cases List.inj_on_of_nodup_map apart.distinct (apart.names.subset name) known same
    exact free name
  · exact unreserved e other key known same

/-! ## What is found -/

/-- Under the key of a required entry its value is found. -/
lemma Laid.lookup? (laid : Laid reserved required entries) (value : n.value = .dict entries)
    (apart : Separate reserved required) {key : String} (mem : (key, v) ∈ required) :
    ∃ m, n.lookup? (Bytes.ofText key) = some m ∧ m.value = v := by
  have found := lookup?_of_value value (Bytes.ofText key)
  rw [laid.find? apart mem] at found
  exact Option.map_eq_some_iff.mp found

/-- A known key that is not required is not found. -/
lemma Laid.lookup?_none (laid : Laid reserved required entries) (value : n.value = .dict entries)
    (apart : Separate reserved required) {key : String} (known : key ∈ reserved)
    (free : key ∉ required.map Prod.fst) : n.lookup? (Bytes.ofText key) = none := by
  have found := lookup?_of_value value (Bytes.ofText key)
  rw [laid.find?_none apart known free] at found
  exact Option.map_eq_none_iff.mp found

/-- The texts are read back from nodes that hold them. -/
lemma texts_of_values {ns : List Node} {ts : List String}
    (values : ns.map Node.value = ts.map text) :
    (ns.filterMap Node.bytes?).map Text.Utf8.lossy = ts := by
  induction ts generalizing ns with
  | nil =>
    cases List.map_eq_nil_iff.mp values
    rfl
  | cons t ts ih =>
    obtain ⟨n, ns, rfl, value, others⟩ := List.map_eq_cons_iff.mp values
    rw [List.filterMap_cons_some (bytes?_of_value value), List.map_cons, Text.Utf8.lossy_ofText,
      ih others]

/-- A file is read from what was written for it. -/
lemma WritesFile.readFile {f : File} (writes : WritesFile f n.value) : readFile n = .ok f := by
  generalize value : n.value = v at writes
  cases writes with
  | @intro entries laid =>
    have apart : Separate ["length", "path"]
        [("length", .integer f.length), ("path", .list (f.path.map text))] :=
      ⟨.refl _, by decide⟩
    obtain ⟨length, found, size⟩ := laid.lookup? value apart (.head _)
    obtain ⟨path, found', list⟩ := laid.lookup? value apart (.tail _ (.head _))
    obtain ⟨parts, items, texts⟩ := items?_of_value list
    rw [Metainfo.readFile, found, found', Option.bind_some, Option.bind_some, size?_of_value size,
      items]
    dsimp only
    rw [texts_of_values texts]

/-- Files are read in order from what was written for them. -/
lemma readFiles_of_writes {files : List File} {vs : List Value} {ns : List Node} (done : List File)
    (writes : List.Forall₂ WritesFile files vs) (values : ns.map Node.value = vs) :
    readFiles done ns = .ok (done.reverse ++ files) := by
  induction writes generalizing done ns with
  | nil =>
    cases List.map_eq_nil_iff.mp values
    rw [readFiles, List.append_nil]
  | cons first _ ih =>
    obtain ⟨n, ns, rfl, rfl, others⟩ := List.map_eq_cons_iff.mp values
    rw [readFiles, first.readFile]
    dsimp only
    rw [ih _ others, List.reverse_cons, List.append_assoc, List.singleton_append]

/-- Hashes are read back from their bytes. -/
lemma readHashes_flatMap (pieces : List Ident) :
    readHashes (pieces.flatMap Ident.bytes) = .ok pieces := by
  have sized : ∀ p ∈ pieces.map Ident.bytes, p.length = 20 :=
    List.forall_mem_map.mpr fun id _ => id.length_bytes
  have whole : (pieces.flatMap Ident.bytes).length % 20 = 0 := by
    rw [List.length_flatMap, List.map_congr_left fun id _ => id.length_bytes]
    simp
  have read : Ident.ofBytes? ∘ Ident.bytes = some := by
    funext id
    exact dif_pos id.length_bytes
  rw [readHashes, if_pos whole, Ident.split, List.flatMap_def, Bytes.chunks_flatten (by decide) sized,
    List.filterMap_map, read, List.filterMap_some]

/-! ## The info dictionary -/

/-- What is read from an info dictionary that was written. -/
structure Read (d : Description) (info : Node) : Prop where
  dictionary : info.entries?.isSome
  name : (info.lookup? (Bytes.ofText "name")).bind Node.bytes? = some (Bytes.ofText d.name)
  pieceLength : (info.lookup? (Bytes.ofText "piece length")).bind size? = some d.pieceLength
  pieces : (info.lookup? (Bytes.ofText "pieces")).bind Node.bytes? =
    some (d.pieces.flatMap Ident.bytes)
  content : readContent info = .ok d.content

/-- An info dictionary that is laid out is read, whatever its content is. -/
lemma read_common {reserved : List String} {last : String × Value}
    (value : n.value = .dict entries)
    (laid : Laid reserved (d.common ++ [last]) entries)
    (apart : Separate reserved (d.common ++ [last])) (content : readContent n = .ok d.content) :
    Read d n := by
  have common {r : String × Value} (mem : r ∈ d.common) :
      ∃ m, n.lookup? (Bytes.ofText r.1) = some m ∧ m.value = r.2 :=
    laid.lookup? value apart (List.mem_append_left _ mem)
  obtain ⟨name, named, text⟩ := common (.head _)
  obtain ⟨length, measured, number⟩ := common (.tail _ (.head _))
  obtain ⟨pieces, hashed, bytes⟩ := common (.tail _ (.tail _ (.head _)))
  refine ⟨entries?_of_value value, ?_, ?_, ?_, content⟩
  · rw [named, Option.bind_some, bytes?_of_value text]
  · rw [measured, Option.bind_some, size?_of_value number]
  · rw [hashed, Option.bind_some, bytes?_of_value bytes]

/-- An info dictionary that is written is read. -/
lemma WritesInfo.read (writes : WritesInfo d n.value)
    (total : ∀ files, d.content = .files files → (files.map File.length).sum < 2 ^ 64) :
    Read d n := by
  generalize value : n.value = v at writes
  -- both kinds of content share four entries and differ in the last one
  cases writes with
  | @single length entries kind laid =>
    have apart : Separate ["name", "piece length", "pieces", "length"]
        (d.common ++ [("length", .integer length)]) := ⟨.refl _, by decide⟩
    refine read_common value laid apart ?_
    obtain ⟨m, found, size⟩ := laid.lookup? value apart (List.mem_append_right _ (.head _))
    rw [readContent, found]
    dsimp only
    rw [size?_of_value size, kind]
  | @files files vs entries kind writes laid =>
    have names : (d.common ++ [("files", Value.list vs)]).map Prod.fst =
      ["name", "piece length", "pieces", "files"] := rfl
    have apart : Separate ["name", "piece length", "pieces", "length", "files"]
        (d.common ++ [("files", .list vs)]) := by
      refine ⟨?_, by decide⟩
      rw [names]
      decide
    refine read_common value laid apart ?_
    -- a length would take precedence over the list of files
    have absent : n.lookup? (Bytes.ofText "length") = none := by
      refine laid.lookup?_none value apart (by decide) ?_
      rw [names]
      decide
    obtain ⟨m, found, list⟩ := laid.lookup? value apart (List.mem_append_right _ (.head _))
    obtain ⟨ns, items, values⟩ := items?_of_value list
    have added : total? files = some (files.map File.length).sum :=
      total?_eq_some.mpr ⟨rfl, total files kind⟩
    rw [readContent, absent]
    dsimp only
    rw [found, Option.bind_some, items]
    dsimp only
    rw [readFiles_of_writes [] writes values]
    dsimp only [List.reverse_nil, List.nil_append]
    rw [added, kind]

/-! ## Torrent files -/

/-- Every node of what was written covers what is written for its value. -/
lemma raw?_of_written (decoded : decodeExact (encode v) = .ok n) (same : n.value = v)
    (occurs : Occurs m n) : m.raw? (encode v) = some (encode m.value) := by
  have doc := document_of_decodeExact decoded
  have whole : StandsAt (encode v) 0 (encode v) := List.prefix_rfl
  have plain : Plain (encode v) n := (doc.rewrites whole).eq_iff.mp (congrArg encode same)
  obtain ⟨before, part, after, inner, eq, -, doc⟩ := doc.exists_part occurs
  rw [Nat.zero_add] at doc
  have stands : StandsAt (encode v) before.length part := by
    rw [StandsAt, eq, List.append_assoc, List.drop_left]
    exact List.prefix_append part after
  have written : encode m.value = part :=
    (doc.rewrites stands).eq_iff.mpr fun k inside => plain k (inside.trans occurs)
  rw [Node.raw?, doc.span_eq, written, eq]
  exact Span.slice?_append before part after

/-- A torrent file is read from what was written for its description. -/
lemma ofNode_of_writes {source : Bytes} (writes : Writes d info entries)
    (value : n.value = .dict entries) (positive : 0 < d.pieceLength)
    (total : ∀ files, d.content = .files files → (files.map File.length).sum < 2 ^ 64)
    (covers : ∀ m, Occurs m n → m.raw? source = some (encode m.value)) :
    ofNode n source = .ok (d.torrent (readTrackers d.announce n) (Hash.sha1 (encode info))) := by
  obtain ⟨written, laid⟩ := writes
  have apart : Separate ["announce", "info"] [("announce", text d.announce), ("info", info)] :=
    ⟨.refl _, by decide⟩
  obtain ⟨announce, announced, url⟩ := laid.lookup? value apart (.head _)
  obtain ⟨node, found, rfl⟩ := laid.lookup? value apart (.tail _ (.head _))
  have read := written.read total
  obtain ⟨es, root⟩ := Option.isSome_iff_exists.mp (entries?_of_value value)
  obtain ⟨es', dictionary⟩ := Option.isSome_iff_exists.mp read.dictionary
  have heard : (n.lookup? (Bytes.ofText "announce")).bind Node.text? = some d.announce := by
    rw [announced, Option.bind_some, Node.text?, bytes?_of_value url, Option.bind_some,
      Text.Utf8.text?_ofText]
  have measured : ((node.lookup? (Bytes.ofText "piece length")).bind size?).filter (0 < ·) =
      some d.pieceLength := by
    rw [read.pieceLength, Option.filter_some, if_pos (decide_eq_true positive)]
  simp only [ofNode, bind_eq_ok, require_eq_ok]
  refine ⟨es, root, d.announce, heard, node, found, es', dictionary, _,
    covers node (occurs_of_lookup? found), _, read.name, _, measured, _, read.pieces, _,
    readHashes_flatMap d.pieces, _, read.content, ?_⟩
  rw [Text.Utf8.lossy_ofText]
  rfl

/-- A torrent file that keeps to the limits of documents is read back from what was written. -/
lemma ofBytes_of_writes (writes : Writes d info entries) (positive : 0 < d.pieceLength)
    (total : ∀ files, d.content = .files files → (files.map File.length).sum < 2 ^ 64)
    (fits : Fits 64 (.dict entries)) :
    ∃ more, ofBytes (encode (.dict entries)) =
        .ok (d.torrent (d.announce :: more) (Hash.sha1 (encode info))) ∧
      ((∀ e ∈ entries, e.1 ≠ Bytes.ofText "announce-list") → more = []) := by
  obtain ⟨n, decoded, value, -⟩ := fits.decodeExact
  have made := ofNode_of_writes writes value positive total fun m =>
    raw?_of_written decoded value
  obtain ⟨more, eq, alone⟩ := readTrackers_cons d.announce n
  rw [eq] at made
  refine ⟨more, ofBytes_eq_ok.mpr ⟨n, decoded, made⟩, fun free => alone ?_⟩
  have absent : (entries.find? fun e => e.1 == Bytes.ofText "announce-list") = none :=
    List.find?_eq_none.mpr fun e inside same => free e inside (eq_of_beq same)
  have found := lookup?_of_value value (Bytes.ofText "announce-list")
  rw [absent] at found
  exact Option.map_eq_none_iff.mp found

/-- Whatever description is written as a torrent file, with the entries of its dictionaries in any
order and with others among them, is read back if the file keeps to the limits of documents, and the
info-hash is that of the info dictionary as it was written. The trackers begin with the first one
and hold no other unless an entry lists them. A file that does not keep to the limits is refused by
the decoder. -/
theorem ofBytes_written (writes : Writes d info entries) (positive : 0 < d.pieceLength)
    (total : ∀ files, d.content = .files files → (files.map File.length).sum < 2 ^ 64) :
    (Fits 64 (.dict entries) → ∃ more, ofBytes (encode (.dict entries)) =
        .ok (d.torrent (d.announce :: more) (Hash.sha1 (encode info))) ∧
      ((∀ e ∈ entries, e.1 ≠ Bytes.ofText "announce-list") → more = [])) ∧
    (¬ Fits 64 (.dict entries) → ∃ e, ofBytes (encode (.dict entries)) = .error (.decode e)) := by
  refine ⟨ofBytes_of_writes writes positive total, fun large => ?_⟩
  obtain ⟨e, refused⟩ := exists_error_of_not_fits large
  refine ⟨e, ?_⟩
  rw [ofBytes, refused]

/-- A torrent of one file whose info dictionary has the length first and an entry `files` as well, in a
root that has a comment and the announce last. -/
theorem ofBytes_written_comment :
    let info : Value := .dict
      [ (Bytes.ofText "length", .integer 5)
      , (Bytes.ofText "files", .integer 0)
      , (Bytes.ofText "name", text "n")
      , (Bytes.ofText "piece length", .integer 4)
      , (Bytes.ofText "pieces", .bytes (List.replicate 40 0)) ]
    let entries : List (Bytes × Value) :=
      [ (Bytes.ofText "info", info)
      , (Bytes.ofText "comment", .list [])
      , (Bytes.ofText "announce", text "u") ]
    ofBytes (encode (.dict entries)) = .ok
      ⟨"u", ["u"], Hash.sha1 (encode info), "n", 4, [.zero, .zero], .single 5⟩ := by
  intro info entries
  let d : Description := ⟨"u", "n", 4, [.zero, .zero], .single 5⟩
  have inner : WritesInfo d info := by
    refine .single rfl (@Laid.intro _ _ [(Bytes.ofText "files", .integer 0)] _ (by decide) ?_)
    exact @List.perm_append_comm _ [_, _] [_, _, _]
  have laid : Laid ["announce", "info"] [("announce", text d.announce), ("info", info)] entries := by
    refine @Laid.intro _ _ [(Bytes.ofText "comment", .list [])] _ (by decide) ?_
    exact @List.perm_append_comm _ [_, _] [_]
  have fits : Fits 64 (.dict entries) := by
    refine .dict (by decide) (List.forall_mem_cons.mpr ⟨.dict (by decide) ?_, ?_⟩)
    · simp only [List.forall_mem_cons]
      exact ⟨.integer (by decide), .integer (by decide), .bytes (by decide), .integer (by decide),
        .bytes (by decide), nofun⟩
    · simp only [List.forall_mem_cons]
      exact ⟨.list nofun, .bytes (by decide), nofun⟩
  have total : ∀ files, d.content = .files files → (files.map File.length).sum < 2 ^ 64 := nofun
  obtain ⟨more, read, alone⟩ := (ofBytes_written ⟨inner, laid⟩ (by decide) total).1 fits
  rw [alone (by decide)] at read
  exact read

end Swarm.Torrent.Metainfo
