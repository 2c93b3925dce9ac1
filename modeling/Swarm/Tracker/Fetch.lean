import Swarm.Tracker.Https
import Swarm.Tracker.Target
import Swarm.Tracker.Udp.Exchange

/-!
# Fetching peers

One announce to the tracker of a URL, over whichever transport the URL names. What the network does
is a function of what was done before, also where that was of no use. The parser of URLs and the
library for HTTPS belong to what is given with the network.
-/

namespace Swarm.Tracker

open Swarm.Net (Dialing Endpoint Fault)
open Swarm.Time (Timed)

/-- The limits on announces over either transport. -/
structure Config where
  udp : Udp.Policy
  http : Http.Limits
deriving DecidableEq

/-- The usual limits. -/
def Config.standard : Config := ⟨.standard, .standard⟩

/-- What looking up the name of a host yields. -/
inductive Lookup where
  | found (endpoint : Endpoint)
  /-- The host has no IPv4 address. -/
  | noAddress
  | failed (fault : Fault)
deriving DecidableEq

/-- What is done to reach trackers. -/
inductive Deed where
  /-- The name of a host is looked up. -/
  | resolve (host : String) (port : UInt16)
  /-- A socket is bound to an address. -/
  | bind (endpoint : Endpoint)
  /-- Packets are sent over a socket. -/
  | packets (endpoint : Endpoint) (sent : List (Timed Bytes))
  /-- A host is dialled, and a request is sent if it answers. -/
  | dial (host : String) (port : UInt16) (request : Option Bytes)
  /-- The library for HTTPS is made ready. -/
  | prepare
  /-- The library for HTTPS requests a URL. -/
  | get (url : String)
deriving DecidableEq

/-- The bytes that a deed sends over HTTP. -/
def Deed.request? : Deed → Option Bytes
  | dial _ _ request => request
  | _ => none

/-- The bytes that a deed sends over UDP. -/
def Deed.datagrams : Deed → List Bytes
  | packets _ sent => sent.map (·.event)
  | _ => []

/-- A library for HTTPS. -/
structure Https.Library where
  /-- Why it cannot be made ready, given what was done before. -/
  unusable : (earlier : List Deed) → Option LibraryFault
  /-- What comes of a request, given what was done before. -/
  get : (earlier : List Deed) → (url : String) → Except LibraryFault Https.Answer

/-- The network as trackers are reached through it. Each thing that happens depends on all that was
done before. -/
structure Network where
  /-- The parser of URLs. -/
  parse : Url.Parser
  /-- The address of a host, with a port. -/
  lookup : (earlier : List Deed) → (host : String) → (port : UInt16) → Lookup
  /-- Why no socket can be bound to an address. -/
  blocked : (earlier : List Deed) → Endpoint → Option Fault
  /-- A connection to an HTTP tracker. -/
  dial : (earlier : List Deed) → (host : String) → (port : UInt16) → Dialing
  /-- The answers of a UDP tracker. -/
  answers : (earlier : List Deed) → Endpoint → Udp.Remote
  /-- What an announce over UDP finds in time and by chance. -/
  draw : (earlier : List Deed) → Udp.Draw
  /-- The library for HTTPS, if the program is built with one. -/
  secure : Option Https.Library

/-- A tracker that can be asked. -/
inductive Channel where
  | udp (endpoint : Endpoint)
  | http (host : String) (port : UInt16) (path : String)
  | https (url : String)
deriving DecidableEq

/-- A tracker in words. -/
def Channel.describe : Channel → String
  | udp e => s!"udp://{e.text}"
  | http host port path => s!"http://{host}:{port.toNat}{path}"
  | https url => url

/-- The tracker that a URL points to, after what was done before, and what is done then. -/
def Network.open (n : Network) (url : String) (t : List Deed) : Except Error Channel × List Deed :=
  match Target.ofUrl n.parse url with
  | .error e => (.error e, t)
  | .ok (.udp host port) =>
    let looked := t ++ [.resolve host port]
    match n.lookup t host port with
    | .failed f => (.error (.resolve host f), looked)
    | .noAddress => (.error (.noAddress host), looked)
    | .found endpoint =>
      let bound := looked ++ [.bind endpoint]
      match n.blocked looked endpoint with
      | some f => (.error (.fault endpoint.text f), bound)
      | none => (.ok (.udp endpoint), bound)
  | .ok (.http host port path) => (.ok (.http host port path), t)
  | .ok (.https url) =>
    match n.secure with
    | none => (.error (.unsupportedScheme "https"), t)
    | some library =>
      match library.unusable t with
      | some f => (.error (.https f), t ++ [.prepare])
      | none => (.ok (.https url), t ++ [.prepare])

/-- Asks a tracker for peers. -/
def Network.ask (n : Network) (config : Config) (a : Announce) (t : List Deed) :
    Channel → Except Error (List Endpoint) × List Deed
  | .udp endpoint =>
    let (result, client) := Udp.Client.fresh.announce endpoint.text config.udp
      (n.answers t endpoint) (n.draw t) a
    (result.map (·.peers), t ++ [.packets endpoint client.socket.sent])
  | .http host port path =>
    let (result, link) := Http.announce host port path config.http a (n.dial t host port)
    (result, t ++ [.dial host port (link.map (·.sent))])
  | .https url =>
    let target := Https.target url a
    match n.secure with
    | none => (.error (.unsupportedScheme "https"), t)
    | some library =>
      (Https.outcome config.http (library.get t target), t ++ [.get target])

/-- Announces once to the tracker of a URL. -/
def Network.fetch (n : Network) (config : Config) (url : String) (a : Announce) (t : List Deed) :
    Except Error (List Endpoint) × List Deed :=
  match n.open url t with
  | (.error e, t) => (.error e, t)
  | (.ok channel, t) => n.ask config a t channel

end Swarm.Tracker
