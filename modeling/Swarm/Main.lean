import Std.Async.DNS
import Std.Async.TCP
import Std.Async.Timer
import Std.Async.UDP
import Swarm.Client.Run
import Swarm.Net.SocketAddress
import Swarm.Url.Reader

/-!
# The program

Runs with real files and connections; without HTTPS. The library looks at a conversation as a function of what the
other side has sent so far; here the conversation is played from its start each time something new
has arrived, and whatever it sends beyond what was sent already goes out.
-/

namespace Swarm.Program

open Std.Async
open Std.Net (IPv4Addr SocketAddressV4)
open Swarm.Client
open Swarm.Net (Ending Endpoint Fault Ipv4 Link Stream)
open Swarm.Peer (Session)
open Swarm.Time (Duration Timed)

/-- The words by which the system reports faults of connections. -/
def reported : List (String × Fault) :=
  [("connection refused", .refused), ("connection reset", .reset), ("broken pipe", .brokenPipe),
    ("network is unreachable", .unreachable), ("connection timed out", .timedOut)]

/-- A failure in the words of the library. -/
def faultOf (e : IO.Error) : Fault :=
  match e with
  | .noFileOrDirectory .. => .missingFile
  | .unexpectedEof => .endOfFile
  | e =>
    let text := toString e
    match reported.find? fun (words, _) => (text.splitOn words).length ≠ 1 with
    | some (_, fault) => fault
    | none => .other text

/-- An endpoint as the system takes it. -/
def address (e : Endpoint) : Std.Net.SocketAddress :=
  .v4 ⟨.ofParts e.ip.a e.ip.b e.ip.c e.ip.d, e.port⟩

/-- A wait that the timers of the system can measure. -/
def milliseconds (d : Duration) : Std.Time.Millisecond.Offset :=
  .ofNat (min (d.nanos / 1000000) 2000000000)

/-- What an event brings, or nothing if it does not happen in time. -/
def within (limit : Duration) (event : Selector α) : Async (Option α) := do
  Selectable.one #[
    .case event fun a => pure (some a),
    .case (← Selector.sleep (milliseconds limit)) fun _ => pure none]

/-- Waits for an action, or gives it up when it takes too long. -/
def timed (limit : Duration) (action : Async Unit) : Async Bool :=
  Async.race (do action; pure true) (do sleep (milliseconds limit); pure false)

/-- What is next on a connection: bytes, or the end of what arrives. -/
def receive (socket : TCP.Socket.Client) (limit : Duration) : IO (Bytes × Option Ending) := do
  try
    match ← (within limit (socket.recvSelector 65536)).block with
    | none => pure ([], some .silent)
    | some none => pure ([], some .closed)
    | some (some data) => pure (data.toList, none)
  catch e => pure ([], some (.broken (faultOf e)))

/-- Opens a connection. -/
def dial (e : Endpoint) (limit : Duration) : IO (Except (Option Fault) TCP.Socket.Client) := do
  try
    let socket ← TCP.Socket.Client.mk
    if ← (timed limit (socket.connect (address e))).block then pure (.ok socket)
    else pure (.error none)
  catch e => pure (.error (some (faultOf e)))

/-- Plays a conversation from `start` until it does not wait for more; `flushed` bytes of what it
sends were sent before. -/
partial def converse (socket : TCP.Socket.Client) (limit : Duration) (start : Link)
    (flushed : Nat) (play : Link → α × Link) (waits : α → Bool) : IO (α × Link) := do
  let (result, link) := play start
  let news := link.sent.drop flushed
  let written ← try
      unless news.isEmpty do (socket.send (ByteArray.mk news.toArray)).block
      pure true
    catch _ => pure false
  if !written then
    let broken := { start with writes := some 0 }
    if start.writes = some 0 then pure (result, link)
    else converse socket limit broken link.sent.length play waits
  else if waits result && start.incoming.ending = .silent then
    let (bytes, ending) ← receive socket limit
    match ending with
    | some .silent => pure (result, link)
    | _ =>
      let incoming := ⟨start.incoming.unread ++ bytes, ending.getD .silent⟩
      converse socket limit { start with incoming } link.sent.length play waits
  else pure (result, link)

/-- The first IPv4 address that the system has found. -/
def ofSystem (found : List Std.Net.IPAddr) (port : UInt16) : Tracker.Lookup :=
  match found with
  | .v4 ip :: _ =>
    match ip.octets.toList with
    | [a, b, c, d] => .found ⟨⟨a, b, c, d⟩, port⟩
    | _ => .noAddress
  | _ :: rest => ofSystem rest port
  | [] => .noAddress

/-- The address of a host: what it spells, or what the system finds. -/
def lookup (host : String) (port : UInt16) : IO Tracker.Lookup := do
  match Net.SocketAddress.ipv4? host.toList with
  | some ip => pure (.found ⟨ip, port⟩)
  | none =>
    try
      let found : Array Std.Net.IPAddr ← (DNS.getAddrInfo host "" (some .ipv4)).block
      pure (ofSystem found.toList port)
    catch e => pure (.failed (faultOf e))

/-- Everything that a tracker sends over HTTP, up to its limit. -/
partial def collect (socket : TCP.Socket.Client) (limits : Tracker.Http.Limits) (read : Bytes) :
    IO Stream := do
  let (bytes, ending) ← receive socket limits.timeout
  let read := read ++ bytes
  match ending with
  | some ending => pure ⟨read, ending⟩
  | none =>
    if limits.maxResponse < read.length then pure ⟨read, .closed⟩
    else collect socket limits read

/-- Announces over HTTP. -/
def announceHttp (host : String) (port : UInt16) (path : String) (limits : Tracker.Http.Limits)
    (a : Tracker.Announce) : IO (Except Tracker.Error (List Endpoint)) := do
  let result dialing := (Tracker.Http.announce host port path limits a dialing).1
  match ← lookup host port with
  | .failed f => pure (result (.failed f))
  | .noAddress => pure (result (.failed .unreachable))
  | .found endpoint =>
    match ← dial endpoint limits.timeout with
    | .error none => pure (result .silent)
    | .error (some f) => pure (result (.failed f))
    | .ok socket =>
      try
        let text := Tracker.Http.requestText host port path a
        if ← (timed limits.timeout (socket.send text.toUTF8)).block then
          let incoming ← collect socket limits []
          pure (result (.connected (.fresh incoming)))
        else pure (result .silent)
      catch e => pure (result (.failed (faultOf e)))

/-- What arrives over UDP, if anything does in time. -/
def arrival (socket : UDP.Socket) (wait : Nat) : IO (List (Timed Tracker.Udp.Arrival)) := do
  let began ← IO.monoNanosNow
  let event ← try
      match ← (within (.ofNanos wait) (socket.recvSelector 65536)).block with
      | none => pure none
      | some (data, _) => pure (some (.datagram data.toList))
    catch e => pure (some (.fault (faultOf e)))
  let took := (← IO.monoNanosNow) - began
  pure (event.toList.map (⟨min took wait, ·⟩))

/-- Plays an announce over UDP until nothing is left to be sent; `known` holds what came of each
packet so far. Where nothing more arrives, the next packet goes out, or the announce ends, when the
wait for the last one is over. -/
partial def announceUdp (socket : UDP.Socket) (endpoint : Endpoint) (policy : Tracker.Udp.Policy)
    (draw : Tracker.Udp.Draw) (a : Tracker.Announce)
    (known : Array (Except Fault (List (Timed Tracker.Udp.Arrival)))) :
    IO (Except Tracker.Error (List Endpoint)) := do
  let remote : Tracker.Udp.Remote := fun sent => known.getD (sent.length - 1) (.ok [])
  let (result, client) :=
    Tracker.Udp.Client.fresh.announce endpoint.text policy remote draw a
  match client.socket.sent.drop known.size with
  | [] => pure (result.map (·.peers))
  | packet :: later =>
    let deadline := (later.head?.map (·.moment)).getD client.socket.now
    let came ← try
        (socket.send (ByteArray.mk packet.event.toArray)).block
        pure (.ok (← arrival socket (deadline - packet.moment)))
      catch e => pure (.error (faultOf e))
    announceUdp socket endpoint policy draw a (known.push came)

/-- A word drawn by chance. -/
def randomWord : IO UInt32 := do
  pure (UInt32.ofNat (← IO.rand 0 0xFFFFFFFF))

/-- Announces to the tracker of a URL. -/
def fetch (config : Tracker.Config) (url : String) (a : Tracker.Announce) :
    IO (Except Tracker.Error (List Endpoint)) := do
  match Tracker.Target.ofUrl Url.parse url with
  | .error e => pure (.error e)
  | .ok (.https _) => pure (.error (.unsupportedScheme "https"))
  | .ok (.http host port path) => announceHttp host port path config.http a
  | .ok (.udp host port) =>
    match ← lookup host port with
    | .failed f => pure (.error (.resolve host f))
    | .noAddress => pure (.error (.noAddress host))
    | .found endpoint =>
      try
        let socket ← UDP.Socket.mk
        socket.connect (address endpoint)
        let draw := ⟨0, 0, ← randomWord, ← randomWord, ← randomWord⟩
        announceUdp socket endpoint config.udp draw a #[]
      catch e => pure (.error (.fault endpoint.text (faultOf e)))

/-- The operations of a run on this machine; the reference holds the open connection. -/
def operations (open_ : IO.Ref (Option TCP.Socket.Client)) : Operations IO where
  readFile path := do
    try
      let data ← IO.FS.readBinFile path
      pure (.ok data.toList)
    catch e => pure (.error (faultOf e))
  peerId := do
    let tail ← IO.getRandomBytes 12
    pure (Wire.clientId (.ofFn fun i => tail.data.getD i 0))
  fetch := fetch
  connect peer infoHash peerId limit := do
    match ← dial peer limit with
    | .error none => pure (.error (.timeout .connecting limit))
    | .error (some f) => pure (.error (.connect f))
    | .ok socket =>
      let play link :=
        match Session.connect peer infoHash peerId limit link with
        | .ok s => (.ok s, s.link)
        | .error (e, link) => (.error e, link)
      let waits r := r matches .error (.timeout ..)
      let (result, _) ← converse socket limit (.fresh ⟨[], .silent⟩) 0 play waits
      open_.set (some socket)
      pure result
  download config index length session := do
    match ← open_.get with
    | none => pure (.error .notUnchoked, session)
    | some socket =>
      let play link :=
        let (result, after) := { session with link }.downloadPiece config index length
        ((result, after), after.link)
      let waits r := r.1 matches .error (.timeout _)
      let ((result, after), _) ← converse socket config.blockTimeout
        { session.link with sent := [] } 0 play waits
      pure (result, after)
  print := IO.print
  clock := do pure (.ofNanos (← IO.monoNanosNow))

/-- What the program says about its options. -/
def usage : String :=
  "Fetch and verify torrent pieces from a single peer\n\n" ++
  "Usage: bitfetch [OPTIONS] <TORRENT_FILE>\n\n" ++
  "Options:\n" ++
  String.join (Options.names.map fun name => s!"  --{name}\n")

/-- The words for a command line that is refused. -/
def refusal : UsageError → String
  | .missingFile => "error: the torrent file is missing\n"
  | .unknownArgument => "error: unexpected argument\n"
  | .badNumber => "error: a value is not a number in range\n"
  | .missingValue => "error: a value is missing\n"
  | .conflict => "error: options exclude each other or are repeated\n"
  | .needlessValue => "error: a switch takes no value\n"
  | .help => usage

end Swarm.Program

/-- Runs with the options of the command line. -/
def main (arguments : List String) : IO UInt32 := do
  match Swarm.Client.Options.read arguments with
  | .error .help =>
    IO.print Swarm.Program.usage
    pure 0
  | .error e =>
    IO.eprint (Swarm.Program.refusal e)
    pure 2
  | .ok options =>
    let socket ← IO.mkRef none
    let config := Swarm.Client.Config.ofOptions options
    match ← Swarm.Client.run (Swarm.Program.operations socket) config with
    | .ok _ => pure 0
    | .error failure =>
      IO.eprint failure.report
      pure 1
