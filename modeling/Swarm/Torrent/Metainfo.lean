import Swarm.Bencode.Decoder
import Swarm.Hash.Sha1

/-!
# Torrent metainfo

A torrent file is a bencoded dictionary. Its `info` dictionary describes the content: the name, the
size of a piece, the hash of every piece, and either one length or a list of files. The info-hash is
the SHA-1 hash of the bytes that `info` was read from, whatever spelling of numbers they use.
-/

namespace Swarm.Torrent

/-- A file of a torrent that holds several. -/
structure File where
  /-- The components of its path. -/
  path : List String
  /-- Its size in bytes. -/
  length : Nat
deriving DecidableEq

/-- What a torrent holds: a single file of some length, or several files. -/
inductive Content where
  | single (length : Nat)
  | files (files : List File)
deriving DecidableEq

/-- The fields of a torrent file. -/
structure Metainfo where
  /-- The first tracker. -/
  announce : String
  /-- All trackers, each once, the first one first. -/
  trackers : List String
  /-- The hash of the bytes of `info`. -/
  infoHash : Ident
  /-- The suggested name of the file or folder. -/
  name : String
  /-- The size of every piece but the last. -/
  pieceLength : Nat
  /-- The hash of every piece. -/
  pieces : List Ident
  /-- What the torrent holds. -/
  content : Content
deriving DecidableEq

/-- What is wrong with the fields of a torrent file. -/
inductive Fault where
  | notDictionary (found : Bencode.Kind)
  | noAnnounce
  | noInfo
  | infoNotDictionary
  | infoOutsideSource
  | noName
  | badPieceLength
  | noPieces
  | piecesLength (length : Nat)
  | badLength
  | fileLength
  | filePath
  | totalTooLarge
  | noContent
deriving DecidableEq

/-- The words for a fault. -/
def Fault.message : Fault → String
  | notDictionary found => s!"root must be a dictionary, found {found.name}"
  | noAnnounce => "missing `announce` string"
  | noInfo => "missing `info` dictionary"
  | infoNotDictionary => "`info` is not a dictionary"
  | infoOutsideSource => "`info` span lies outside the source buffer"
  | noName => "missing `name`"
  | badPieceLength => "missing or non-positive `piece length`"
  | noPieces => "missing `pieces`"
  | piecesLength n => s!"`pieces` length must be a multiple of 20, got {n}"
  | badLength => "invalid `length`"
  | fileLength => "file entry without a valid `length`"
  | filePath => "file entry without `path`"
  | totalTooLarge => "file lengths overflow a 64-bit total"
  | noContent => "neither `length` nor `files` present in info"

/-- Why a torrent file cannot be read. -/
inductive Error where
  | decode (e : Bencode.Error)
  | metainfo (fault : Fault)
deriving DecidableEq

/-- The report of an error. -/
def Error.message : Error → String
  | decode e => e.message
  | metainfo fault => s!"invalid torrent metainfo: {fault.message}"

/-- The least number that does not fit in 64 bits. -/
def limit64 : Nat := UInt64.size

/-- A number, or the largest one that fits in 64 bits. -/
def saturate (n : Nat) : Nat := min n (limit64 - 1)

namespace Metainfo

open Swarm.Bencode

/-- Adds the texts among some nodes to a list, each once, in order. -/
def addTexts (known : List String) (nodes : List Node) : List String :=
  nodes.foldl (fun known n =>
    match n.text? with
    | some url => if known.contains url then known else known ++ [url]
    | none => known) known

/-- All trackers: the first one, and then those of the tiers. -/
def readTrackers (announce : String) (root : Node) : List String :=
  match (root.lookup? (Bytes.ofText "announce-list")).bind Node.items? with
  | none => [announce]
  | some tiers => addTexts [announce] (tiers.flatMap fun tier => (tier.items?).getD [])

/-- A number that is not negative. -/
def size? (n : Node) : Option Nat :=
  match n.int? with
  | some (.ofNat k) => some k
  | _ => none

/-- Reads one entry of the list of files. -/
def readFile (entry : Node) : Except Fault File :=
  match (entry.lookup? (Bytes.ofText "length")).bind size? with
  | none => .error .fileLength
  | some length =>
    match (entry.lookup? (Bytes.ofText "path")).bind Node.items? with
    | none => .error .filePath
    | some parts => .ok ⟨(parts.filterMap Node.bytes?).map Text.Utf8.lossy, length⟩

/-- Reads a list of files, as long as all of them can be read. -/
def readFiles (done : List File) : List Node → Except Fault (List File)
  | [] => .ok done.reverse
  | entry :: rest =>
    match readFile entry with
    | .error e => .error e
    | .ok file => readFiles (file :: done) rest

/-- Adds the size of a file to a total, if the sum fits in 64 bits. -/
def addSize? (total : Nat) (f : File) : Option Nat :=
  if total + f.length < limit64 then some (total + f.length) else none

/-- The sizes of files added up one after another, as long as the total fits in 64 bits. -/
def total? (files : List File) : Option Nat :=
  files.foldlM addSize? 0

/-- Reads the content: a length if there is one, otherwise the files, whose sizes must add up to a
64-bit number. -/
def readContent (info : Node) : Except Fault Content :=
  match info.lookup? (Bytes.ofText "length") with
  | some n =>
    match size? n with
    | some length => .ok (.single length)
    | none => .error .badLength
  | none =>
    match (info.lookup? (Bytes.ofText "files")).bind Node.items? with
    | none => .error .noContent
    | some entries =>
      match readFiles [] entries with
      | .error e => .error e
      | .ok files =>
        match total? files with
        | some _ => .ok (.files files)
        | none => .error .totalTooLarge

/-- Reads the hashes of the pieces, twenty bytes each. -/
def readHashes (b : Bytes) : Except Fault (List Ident) :=
  if b.length % 20 = 0 then .ok (Ident.split b) else .error (.piecesLength b.length)

/-- An option, or an error in place of nothing. -/
def require (o : Option α) (e : Fault) : Except Fault α :=
  match o with
  | some a => .ok a
  | none => .error e

/-- Reads the fields of a decoded torrent file. -/
def ofNode (root : Node) (source : Bytes) : Except Fault Metainfo := do
  let _ ← require root.entries? (.notDictionary root.kind)
  let announce ← require ((root.lookup? (Bytes.ofText "announce")).bind Node.text?) .noAnnounce
  let info ← require (root.lookup? (Bytes.ofText "info")) .noInfo
  let _ ← require info.entries? .infoNotDictionary
  let raw ← require (info.raw? source) .infoOutsideSource
  let name ← require ((info.lookup? (Bytes.ofText "name")).bind Node.bytes?) .noName
  let pieceLength ← require
    (((info.lookup? (Bytes.ofText "piece length")).bind size?).filter (0 < ·)) .badPieceLength
  let hashes ← require ((info.lookup? (Bytes.ofText "pieces")).bind Node.bytes?) .noPieces
  let pieces ← readHashes hashes
  let content ← readContent info
  .ok {
    announce
    trackers := readTrackers announce root
    infoHash := Hash.sha1 raw
    name := Text.Utf8.lossy name
    pieceLength
    pieces
    content }

/-- Reads a torrent file: one dictionary and nothing after it. -/
def ofBytes (source : Bytes) : Except Error Metainfo :=
  match decodeExact source with
  | .error e => .error (.decode e)
  | .ok root => (ofNode root source).mapError .metainfo

/-- The number of pieces. -/
def pieceCount (m : Metainfo) : Nat := m.pieces.length

/-- The size of the content in bytes. -/
def totalSize (m : Metainfo) : Nat :=
  match m.content with
  | .single length => length
  | .files files => files.foldl (fun total f => saturate (total + f.length)) 0

/-- The size of a piece: the last one may be shorter than the others. The ends of the piece are
64-bit numbers that stop at the largest one. -/
def pieceSize? (m : Metainfo) (index : Nat) : Option Nat :=
  if index < m.pieceCount then
    let start := saturate (index * m.pieceLength)
    let stop := min (saturate (start + m.pieceLength)) m.totalSize
    some (stop - start)
  else none

end Metainfo

end Swarm.Torrent
