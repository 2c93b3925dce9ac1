import Swarm.Text.Blank
import Swarm.Text.Numeral

/-!
# Command line

The options of the command line: settings that take a number, switches that do not, and one torrent
file. A setting or switch may be given once. A value stands after an equals sign, after a short name,
or as the next argument; it is read when the next option begins.
-/

namespace Swarm.Client

open Swarm.Text

/-- Why a command line is refused; the help that was asked for is one of the reasons. -/
inductive UsageError where
  | missingFile
  | unknownArgument
  | badNumber
  | missingValue
  | conflict
  | needlessValue
  | help
deriving DecidableEq

/-- The options that take a number. -/
inductive Setting where
  | port
  | piece
  | blockSize
  | trackerTimeout
  | udpRetries
  | peerTimeout
  | blockTimeout
  | maxPeers
  | maxResponse
deriving DecidableEq

/-- The options that take nothing. -/
inductive Switch where
  | allPieces
  | lenientPeerCount
  | verbose
  | quiet
  | help
deriving DecidableEq

/-- An option of either sort. -/
inductive Name where
  | setting (s : Setting)
  | switch (s : Switch)
deriving DecidableEq

/-- The long names. -/
def longNames : List (String × Name) :=
  [ ("port", .setting .port)
  , ("piece", .setting .piece)
  , ("all-pieces", .switch .allPieces)
  , ("block-size", .setting .blockSize)
  , ("tracker-timeout-secs", .setting .trackerTimeout)
  , ("udp-retries", .setting .udpRetries)
  , ("lenient-peer-count", .switch .lenientPeerCount)
  , ("peer-timeout-secs", .setting .peerTimeout)
  , ("block-timeout-secs", .setting .blockTimeout)
  , ("max-peers", .setting .maxPeers)
  , ("max-response-bytes", .setting .maxResponse)
  , ("verbose", .switch .verbose)
  , ("quiet", .switch .quiet)
  , ("help", .switch .help) ]

/-- The short names. -/
def shortNames : List (Char × Name) :=
  [ ('p', .setting .port)
  , ('m', .setting .maxPeers)
  , ('v', .switch .verbose)
  , ('q', .switch .quiet)
  , ('h', .switch .help) ]

/-- The long names of all options. -/
def Options.names : List String := longNames.map (·.1)

namespace Setting

/-- The value of a setting that is not given. -/
def default : Setting → Nat
  | port => 6881
  | piece => 0
  | blockSize => 16384
  | trackerTimeout => 5
  | udpRetries => 0
  | peerTimeout => 3
  | blockTimeout => 30
  | maxPeers => 50
  | maxResponse => 1024 * 1024

/-- Reads the value of a setting. The narrow ones admit a minus sign before zero. -/
def read? (s : Setting) (text : String) : Option Nat :=
  match s with
  | port => Numeral.ranged? UInt16.size text.toList
  | piece | blockSize | udpRetries => Numeral.ranged? UInt32.size text.toList
  | _ => Numeral.natural? 10 UInt64.size text.toList

end Setting

/-- The options of a command line. -/
structure Options where
  file : String
  /-- The settings that were given, with their values. -/
  values : List (Setting × Nat)
  /-- The switches that were given. -/
  switches : List Switch
deriving DecidableEq

namespace Options

/-- The value of a setting. -/
def get (o : Options) (s : Setting) : Nat :=
  (o.values.lookup s).getD s.default

/-- Whether a switch was given. -/
def has (o : Options) (s : Switch) : Bool :=
  o.switches.contains s

/-- An option whose value is still to be read. -/
inductive Pending where
  /-- A setting that waits for its value. -/
  | awaited (s : Setting)
  /-- A setting with its value. -/
  | value (s : Setting) (text : String)
  /-- The torrent file. -/
  | file (text : String)
deriving DecidableEq

/-- A command line read in part. -/
structure Progress where
  values : List (Setting × Nat)
  switches : List Switch
  file : Option String
  pending : Option Pending
  /-- Whether the file was given, even if it is still to be read. -/
  fileGiven : Bool
  /-- Whether all further arguments are files. -/
  filesOnly : Bool
deriving DecidableEq

namespace Progress

/-- A command line of which nothing is read. -/
def start : Progress := ⟨[], [], none, none, false, false⟩

/-- Reads the value that is still to be read. -/
def settle (p : Progress) : Except UsageError Progress :=
  match p.pending with
  | none => .ok p
  | some (.awaited _) => .error .missingValue
  | some (.file text) =>
    if text.isEmpty then .error .missingValue
    else .ok { p with file := some text, pending := none }
  | some (.value s text) =>
    if (p.values.lookup s).isSome then .error .conflict
    else
      match s.read? text with
      | some n => .ok { p with values := (s, n) :: p.values, pending := none }
      | none => .error .badNumber

/-- Takes a setting with the value that stands with it, if one does. -/
def setting (p : Progress) (s : Setting) (text : Option String) : Except UsageError Progress := do
  let p ← p.settle
  match text with
  | some text => settle { p with pending := some (.value s text) }
  | none => .ok { p with pending := some (.awaited s) }

/-- Takes a switch. -/
def switch (p : Progress) (s : Switch) : Except UsageError Progress := do
  let p ← p.settle
  if s = .help then .error .help
  else if p.switches.contains s then .error .conflict
  else .ok { p with switches := s :: p.switches }

/-- Takes what stands after two hyphens. -/
def long (p : Progress) (text : List Char) : Except UsageError Progress :=
  let (name, value) := match cut? '=' text with
    | some (name, value) => (name, some (String.ofList value))
    | none => (text, none)
  match longNames.lookup (String.ofList name), value with
  | none, _ => .error .unknownArgument
  | some (.setting s), _ => p.setting s value
  | some (.switch _), some _ => .error .needlessValue
  | some (.switch s), none => p.switch s

/-- Takes what stands after one hyphen: switches, and at last a setting with its value. -/
def short (p : Progress) : List Char → Except UsageError Progress
  | [] => .ok p
  | c :: rest =>
    match shortNames.lookup c with
    | none => .error .unknownArgument
    | some (.switch s) => do
      let p ← p.switch s
      short p rest
    | some (.setting s) =>
      match rest with
      | [] => p.setting s none
      | '=' :: value => p.setting s (some (String.ofList value))
      | _ => p.setting s (some (String.ofList rest))

/-- Takes a file. -/
def positional (p : Progress) (text : String) : Except UsageError Progress :=
  if p.fileGiven then .error .unknownArgument
  else do
    let p ← p.settle
    .ok { p with pending := some (.file text), fileGiven := true }

/-- Takes an argument that is no option: the value that is awaited, or a file. -/
def plain (p : Progress) (text : String) : Except UsageError Progress :=
  match p.pending with
  | some (.awaited s) => .ok { p with pending := some (.value s text) }
  | _ => p.positional text

/-- Takes one argument. -/
def argument (p : Progress) (text : String) : Except UsageError Progress :=
  if p.filesOnly then p.positional text
  else
    match text.toList with
    | ['-', '-'] => .ok { p with filesOnly := true }
    | '-' :: '-' :: name => p.long name
    | '-' :: c :: rest => p.short (c :: rest)
    | _ => p.plain text

end Progress

/-- Reads a command line, without the name of the program. -/
def read (arguments : List String) : Except UsageError Options := do
  let p ← arguments.foldlM Progress.argument Progress.start
  let p ← p.settle
  if p.switches.contains .allPieces && (p.values.lookup .piece).isSome then .error .conflict
  else
    match p.file with
    | none => .error .missingFile
    | some file => .ok ⟨file, p.values, p.switches⟩

end Options

end Swarm.Client
