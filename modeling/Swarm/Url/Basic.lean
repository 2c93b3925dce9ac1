/-!
# URLs

A URL as a parser tells it apart, as far as it matters to an announce.
-/

namespace Swarm

/-- The parts of a URL. -/
structure Url where
  scheme : String
  host : Option String
  /-- The port, if it is not the usual one of the scheme. -/
  port : Option UInt16
  path : String
  query : Option String
deriving DecidableEq

/-- What reads a text as a URL, or tells why it is none. -/
abbrev Url.Parser := String → Except String Url

end Swarm
