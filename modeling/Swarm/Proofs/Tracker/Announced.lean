import Swarm.Proofs.Tracker.Query
import Swarm.Proofs.Tracker.Udp.Reply
import Swarm.Tracker.Http.Exchange

/-!
# Announces over both transports

A tracker is told the same over HTTP and over UDP. The target of the request has a query with all that
the announce says, and so has the packet, though the two put the counters in different orders.
-/

namespace Swarm.Tracker

open Swarm.Text

/-- No line ends within the text. -/
def OneLine (text : String) : Prop := '\r' ∉ text.toList ∧ '\n' ∉ text.toList

instance (text : String) : Decidable (OneLine text) :=
  inferInstanceAs (Decidable ('\r' ∉ text.toList ∧ '\n' ∉ text.toList))

/-- The lines of a request for a target: one that names it, four that name the host and this client,
and an empty one. -/
def requestLines (host : String) (port : UInt16) (target : String) : List String :=
  [ "GET " ++ target ++ " HTTP/1.1"
  , "Host: " ++ Http.authority host port
  , "User-Agent: " ++ Http.userAgent
  , "Accept: */*"
  , "Connection: close"
  , "" ]

/-- The text of a request for a target: its lines with an end after each of them; the target
is the second of the three words of the first line. -/
structure Requests (host : String) (port : UInt16) (target text : String) : Prop where
  lines : text = String.join ((requestLines host port target).map (· ++ "\r\n"))
  whole : ∀ l ∈ requestLines host port target, OneLine l
  words : pieces (· == ' ') ("GET " ++ target ++ " HTTP/1.1").toList =
    ["GET".toList, target.toList, "HTTP/1.1".toList]

/-- A packet that holds the fields of an announce where an announce over UDP has them. -/
structure Packs (a : Announce) (packet : Bytes) : Prop where
  length : packet.length = 98
  infoHash : (packet.drop 16).take 20 = a.infoHash.bytes
  peerId : (packet.drop 36).take 20 = a.peerId.bytes
  downloaded : Bytes.word64 ((packet.drop 56).take 8) = a.downloaded
  left : Bytes.word64 ((packet.drop 64).take 8) = a.left
  uploaded : Bytes.word64 ((packet.drop 72).take 8) = a.uploaded
  port : Bytes.word16 ((packet.drop 96).take 2) = a.port

variable {a b : Announce} {packet : Bytes} {host path : String} {port : UInt16} {c : Char}

/-! ## Packets -/

/-- A packet holds the fields of one announce only. -/
lemma Packs.unique (h : Packs a packet) (h' : Packs b packet) : a = b := by
  obtain ⟨⟨_, _⟩, ⟨_, _⟩, _, _, _, _⟩ := a
  obtain ⟨⟨_, _⟩, ⟨_, _⟩, _, _, _, _⟩ := b
  cases h.infoHash.symm.trans h'.infoHash
  cases h.peerId.symm.trans h'.peerId
  cases h.downloaded.symm.trans h'.downloaded
  cases h.left.symm.trans h'.left
  cases h.uploaded.symm.trans h'.uploaded
  cases h.port.symm.trans h'.port
  rfl

/-- The packet of an announce holds its content. -/
lemma packs_announceRequest (connection : UInt64) (transaction key : UInt32) (a : Announce) :
    Packs a (Udp.announceRequest connection transaction key a) := by
  refine ⟨Udp.length_announceRequest, ?_, ?_, ?_, ?_, ?_, ?_⟩
  -- the parts before a field end where it begins, and those after it begin where it ends
  all_goals
    simp (disch := simp) [Udp.announceRequest, List.drop_append, List.drop_of_length_le,
      List.take_of_length_le, Bytes.word64_word, Bytes.word16_word]

/-! ## Requests -/

/-- Unbroken texts are unbroken together. -/
lemma Unbroken.append {s t : String} (h : Unbroken s) (h' : Unbroken t) : Unbroken (s ++ t) := by
  intro c inside
  rw [String.toList_append] at inside
  exact (List.mem_append.mp inside).elim (h c) (h' c)

/-- An unbroken text is on one line. -/
lemma Unbroken.oneLine {s : String} (h : Unbroken s) : OneLine s :=
  ⟨fun inside => h _ inside (by decide), fun inside => h _ inside (by decide)⟩

/-- Texts on one line are on one line together. -/
lemma OneLine.append {s t : String} (h : OneLine s) (h' : OneLine t) : OneLine (s ++ t) := by
  rw [OneLine, String.toList_append, List.mem_append, List.mem_append, not_or, not_or]
  exact ⟨⟨h.1, h'.1⟩, h.2, h'.2⟩

/-- The text of a request is that of its lines. -/
lemma requestText_lines (host path : String) (port : UInt16) (a : Announce) :
    Http.requestText host port path a = String.join ((requestLines host port
      (Http.addQuery (if path.isEmpty then "/" else path) a.query)).map (· ++ "\r\n")) := by
  have first : " HTTP/1.1\r\n" = " HTTP/1.1" ++ "\r\n" := rfl
  have accept : "Accept: */*\r\n" = "Accept: */*" ++ "\r\n" := rfl
  have last : "Connection: close\r\n\r\n" = "Connection: close" ++ "\r\n" ++ ("" ++ "\r\n") := rfl
  -- its equation lemma would take long to derive
  delta Http.requestText
  dsimp only
  generalize Http.addQuery (if path.isEmpty then "/" else path) a.query = target
  simp only [first, accept, last, requestLines, List.map_cons, List.map_nil, String.join_cons,
    String.join_nil, String.append_assoc, String.append_empty]

/-- A path with a query is unbroken if the path is. -/
lemma unbroken_addQuery (barePath : Unbroken path) :
    Unbroken (Http.addQuery (if path.isEmpty then "/" else path) a.query) := by
  have mark (p : Prop) [Decidable p] : Unbroken (if p then "&" else "?") := by
    split <;> decide
  refine .append (.append ?_ (mark _)) (unbroken_query a)
  split
  · decide
  · exact barePath

/-- A host with a port is unbroken if the host is. -/
lemma unbroken_authority (bareHost : Unbroken host) : Unbroken (Http.authority host port) := by
  rw [Http.authority]
  split
  · exact bareHost
  · have digits : Unbroken (toString port.toNat) := fun c inside broken =>
      undivided_decimal _ c inside (List.mem_cons_of_mem _ (List.mem_cons_of_mem _ broken))
    have colon : Unbroken ":" := by decide
    exact .append (.append bareHost colon) digits

/-- A request for a target without spaces and line ends has six lines. -/
lemma requests_of_unbroken {target text : String} (bareHost : Unbroken host)
    (bareTarget : Unbroken target)
    (lines : text = String.join ((requestLines host port target).map (· ++ "\r\n"))) :
    Requests host port target text := by
  refine ⟨lines, ?_, ?_⟩
  · simp only [requestLines, List.forall_mem_cons]
    refine ⟨?_, ?_, by decide, by decide, by decide, by decide, nofun⟩
    · exact .append (.append (by decide) bareTarget.oneLine) (by decide)
    · exact .append (by decide) (unbroken_authority bareHost).oneLine
  · have space : ' ' ∉ target.toList := fun inside => bareTarget _ inside (by decide)
    have first : ("GET " ++ target ++ " HTTP/1.1").toList =
        "GET".toList ++ ' ' :: (target.toList ++ ' ' :: "HTTP/1.1".toList) := by simp
    have word {cs : List Char} (h : ' ' ∉ cs) : pieces (· == ' ') cs = [cs] :=
      pieces_unmarked fun c inside => beq_false_of_ne fun same => h (same ▸ inside)
    rw [first, pieces_append rfl, pieces_append rfl, word (by decide), word space,
      word (by decide)]
    rfl

/-- A tracker is told the same over both transports. The text of a request over HTTP has a request
line for a target, four header lines and an empty line; the target is the path, a question mark, or an
ampersand if the path has a question mark already, and the query. The query tells the announce, and the
packet over UDP holds it. Announces that differ have different queries and different packets. -/
theorem announce_told_alike (a : Announce) (port : UInt16) (connection : UInt64)
    (transaction key : UInt32) (bareHost : Unbroken host) (barePath : Unbroken path) :
    (let base := if path = "" then "/" else path
      let mark := if '?' ∈ path.toList then "&" else "?"
      Requests host port (base ++ mark ++ a.query) (Http.requestText host port path a)) ∧
    Asks a a.query.toList ∧
    Packs a (Udp.announceRequest connection transaction key a) ∧
    ∀ b, b ≠ a → b.query ≠ a.query ∧
      ∀ connection' transaction' key', Udp.announceRequest connection' transaction' key' b ≠
        Udp.announceRequest connection transaction key a := by
  refine ⟨?_, asks_query a, packs_announceRequest .., fun b other => ⟨?_, ?_⟩⟩
  · have target : (if path = "" then "/" else path) ++ (if '?' ∈ path.toList then "&" else "?") ++
        a.query = Http.addQuery (if path.isEmpty then "/" else path) a.query := by
      rw [Http.addQuery]
      by_cases h : path = ""
      · subst h
        rfl
      · simp [h]
    dsimp only
    rw [target]
    exact requests_of_unbroken bareHost (unbroken_addQuery barePath) (requestText_lines ..)
  · exact fun same => other (query_injective same)
  · intro connection' transaction' key' same
    have packs := packs_announceRequest connection' transaction' key' b
    rw [same] at packs
    exact other (packs.unique (packs_announceRequest ..))

/-- The query is added to one that the path has already, and it changes with how much is left. -/
theorem announce_told_alike_added :
    let a (left : UInt64) : Announce := .start .zero .zero 6881 left
    Requests "t" 81 ("/a?k=1" ++ "&" ++ (a 7).query) (Http.requestText "t" 81 "/a?k=1" (a 7)) ∧
      Asks (a 7) (a 7).query.toList ∧ Packs (a 7) (Udp.announceRequest 1 2 3 (a 7)) ∧
      (a 8).query ≠ (a 7).query := by
  intro a
  obtain ⟨requests, asks, packs, differ⟩ :=
    @announce_told_alike "t" "/a?k=1" (a 7) 81 1 2 3 (by decide) (by decide)
  exact ⟨requests, asks, packs, (differ (a 8) (by decide)).1⟩

end Swarm.Tracker
