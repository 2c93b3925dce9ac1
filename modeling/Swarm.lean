import Swarm.Bencode.Cursor
import Swarm.Bencode.Decoder
import Swarm.Bencode.Encoder
import Swarm.Bencode.Error
import Swarm.Bencode.Node
import Swarm.Bencode.Value
import Swarm.Bencode.Walk
import Swarm.Bytes
import Swarm.Client.Config
import Swarm.Client.Failure
import Swarm.Client.Options
import Swarm.Client.Run
import Swarm.Client.Size
import Swarm.Client.World
import Swarm.Hash.Sha1
import Swarm.Ident
import Swarm.Main
import Swarm.Net.Address
import Swarm.Net.Fault
import Swarm.Net.Ipv6
import Swarm.Net.Link
import Swarm.Net.SocketAddress
import Swarm.Peer.Download
import Swarm.Peer.Session
import Swarm.Proofs.Bencode.Acceptance
import Swarm.Proofs.Bencode.Grammar
import Swarm.Proofs.Bencode.Lookup
import Swarm.Proofs.Bencode.PrefixFree
import Swarm.Proofs.Bencode.Reader
import Swarm.Proofs.Bencode.Reading
import Swarm.Proofs.Bencode.Relocation
import Swarm.Proofs.Bencode.Rewriting
import Swarm.Proofs.Bencode.RoundTrip
import Swarm.Proofs.Bencode.Stretches
import Swarm.Proofs.Bencode.Viability
import Swarm.Proofs.Bencode.Walking
import Swarm.Proofs.Bencode.Walks
import Swarm.Proofs.Bencode.Writing
import Swarm.Proofs.Client.Failover
import Swarm.Proofs.Client.Fetching
import Swarm.Proofs.Client.Integrity
import Swarm.Proofs.Client.Opening
import Swarm.Proofs.Client.RequestLimits
import Swarm.Proofs.Client.Summary
import Swarm.Proofs.Cut
import Swarm.Proofs.Peer.Answer
import Swarm.Proofs.Peer.Availability
import Swarm.Proofs.Peer.Failures
import Swarm.Proofs.Peer.Lifetime
import Swarm.Proofs.Peer.Listening
import Swarm.Proofs.Peer.Noise
import Swarm.Proofs.Peer.Piece
import Swarm.Proofs.Peer.Reads
import Swarm.Proofs.Peer.Recovery
import Swarm.Proofs.Peer.Request
import Swarm.Proofs.Peer.Setup
import Swarm.Proofs.Peer.Steps
import Swarm.Proofs.Peer.Waiting
import Swarm.Proofs.Records
import Swarm.Proofs.Text.Decoding
import Swarm.Proofs.Text.Encoding
import Swarm.Proofs.Text.Lines
import Swarm.Proofs.Text.Numerals
import Swarm.Proofs.Text.Repair
import Swarm.Proofs.Torrent.InfoDictionary
import Swarm.Proofs.Torrent.PieceSizes
import Swarm.Proofs.Torrent.Sizes
import Swarm.Proofs.Torrent.Tiers
import Swarm.Proofs.Torrent.Totals
import Swarm.Proofs.Torrent.Trackers
import Swarm.Proofs.Torrent.Written
import Swarm.Proofs.Tracker.Announced
import Swarm.Proofs.Tracker.Http.BareFeeds
import Swarm.Proofs.Tracker.Http.CarriageReturns
import Swarm.Proofs.Tracker.Http.Chunks
import Swarm.Proofs.Tracker.Http.Heads
import Swarm.Proofs.Tracker.Http.Peers
import Swarm.Proofs.Tracker.Http.Truncation
import Swarm.Proofs.Tracker.Https
import Swarm.Proofs.Tracker.Query
import Swarm.Proofs.Tracker.Udp.Attempts
import Swarm.Proofs.Tracker.Udp.Datagram
import Swarm.Proofs.Tracker.Udp.History
import Swarm.Proofs.Tracker.Udp.Provenance
import Swarm.Proofs.Tracker.Udp.Reply
import Swarm.Proofs.Tracker.Udp.Surplus
import Swarm.Proofs.Tracker.Udp.Traffic
import Swarm.Proofs.Wire.Bitfield
import Swarm.Proofs.Wire.Body
import Swarm.Proofs.Wire.Boundaries
import Swarm.Proofs.Wire.Framing
import Swarm.Proofs.Wire.Heard
import Swarm.Proofs.Wire.Messages
import Swarm.Proofs.Wire.PieceSet
import Swarm.Proofs.Wire.Readings
import Swarm.Proofs.Word
import Swarm.Text.Blank
import Swarm.Text.CharSet
import Swarm.Text.CombiningClass
import Swarm.Text.Composition
import Swarm.Text.Direction
import Swarm.Text.Joining
import Swarm.Text.Mark
import Swarm.Text.Numeral
import Swarm.Text.Utf8
import Swarm.Time.Duration
import Swarm.Time.Timeline
import Swarm.Torrent.Metainfo
import Swarm.Tracker.Announce
import Swarm.Tracker.Error
import Swarm.Tracker.Fetch
import Swarm.Tracker.Http.Body
import Swarm.Tracker.Http.Exchange
import Swarm.Tracker.Http.Response
import Swarm.Tracker.Https
import Swarm.Tracker.Target
import Swarm.Tracker.Udp.Exchange
import Swarm.Tracker.Udp.Packet
import Swarm.Url.Basic
import Swarm.Url.Host
import Swarm.Url.Label
import Swarm.Url.LabelChar
import Swarm.Url.Path
import Swarm.Url.Percent
import Swarm.Url.Punycode
import Swarm.Url.Reader
import Swarm.Wire.Bitfield
import Swarm.Wire.Frame
import Swarm.Wire.Handshake
import Swarm.Wire.Message
