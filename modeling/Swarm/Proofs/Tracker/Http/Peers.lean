import Swarm.Proofs.Bencode.Lookup
import Swarm.Proofs.Tracker.Udp.Reply
import Swarm.Tracker.Http.Body

/-!
# Peers in bodies of HTTP replies

What a body says, apart from how it is read: the dictionary at its beginning refuses the announce if there
is an entry for a failure, and otherwise the first entry for peers decides. Main statement: every body has
exactly one answer, and the peers in it are those that a UDP reply with the same bytes gives.
-/

namespace Swarm.Tracker.Http

open Swarm.Bencode
open Swarm.Net (Endpoint)

/-- What the document at the beginning of a body is answered with. -/
inductive Answers : Node → Except Error (List Endpoint) → Prop where
  | other {root} :
    root.entries? = none →
    Answers root (.error (.malformedHttp (.notDictionary root.kind)))
  | failure {span entries reason} :
    First "failure reason" entries reason →
    Answers (.dict span entries)
      (.error (.refused ((reason.bytes?.map Text.Utf8.lossy).getD "unspecified")))
  | missing {span entries} :
    Lacks "failure reason" entries →
    (∀ stretch b, ¬ First "peers" entries (.bytes stretch b)) →
    Answers (.dict span entries) (.error .missingPeers)
  | invalid {span entries stretch b} :
    Lacks "failure reason" entries →
    First "peers" entries (.bytes stretch b) →
    b.length % 6 ≠ 0 →
    Answers (.dict span entries) (.error (.invalidPeers b.length))
  | peers {span entries stretch peers} :
    Lacks "failure reason" entries →
    First "peers" entries (.bytes stretch (peers.flatMap Endpoint.compact)) →
    Answers (.dict span entries) (.ok peers)

variable {body b : Bytes} {root : Node} {x : Except Error (List Endpoint)}
variable {span : Span} {entries : List (Bytes × Node)} {peers : List Endpoint}

/-! ## Lists of peers -/

/-- Peers are read back from their records. -/
lemma readPeers_compact (peers : List Endpoint) :
    readPeers (peers.flatMap Endpoint.compact) = .ok peers := by
  rw [readPeers, Endpoint.list?_eq_some.mpr rfl]

/-- Peer data with a partial record is refused. -/
lemma readPeers_partial (rest : b.length % 6 ≠ 0) :
    readPeers b = .error (.invalidPeers b.length) := by
  rw [readPeers, Endpoint.list?, if_neg rest]

/-- Bytes are the records of some peers, or a part of a record is left over. -/
lemma readPeers_cases (b : Bytes) :
    (∃ peers : List Endpoint, b = peers.flatMap Endpoint.compact) ∨ b.length % 6 ≠ 0 := by
  by_cases whole : b.length % 6 = 0
  · left
    exact ⟨_, Endpoint.list?_eq_some.mp (if_pos whole)⟩
  · exact .inr whole

/-! ## Answers -/

/-- A reason for a failure is reported. -/
lemma peersOf_refused (reason : Node) (failure : First "failure reason" entries reason) :
    peersOf (.dict span entries) =
      .error (.refused ((reason.bytes?.map Text.Utf8.lossy).getD "unspecified")) := by
  rw [peersOf, lookup?_eq_some.mpr failure]
  rfl

/-- An answer without peer data is refused. -/
lemma peersOf_missing (fine : Lacks "failure reason" entries)
    (missing : ∀ stretch b, ¬ First "peers" entries (.bytes stretch b)) :
    peersOf (.dict span entries) = .error .missingPeers := by
  have none : ((Node.dict span entries).lookup? (Bytes.ofText "peers")).bind Node.bytes? = none := by
    rw [Option.bind_eq_none_iff]
    intro n found
    cases n with
    | bytes stretch b => exact absurd (lookup?_eq_some.mp found) (missing stretch b)
    | _ => rfl
  rw [peersOf, lookup?_eq_none.mpr fine, none]
  rfl

/-- Peer data is read. -/
lemma peersOf_bytes {stretch : Span} (fine : Lacks "failure reason" entries)
    (first : First "peers" entries (.bytes stretch b)) :
    peersOf (.dict span entries) = readPeers b := by
  rw [peersOf, lookup?_eq_none.mpr fine, lookup?_eq_some.mpr first]
  rfl

/-- What a document answers is what is made of it. -/
lemma Answers.peersOf_eq (answers : Answers root x) : peersOf root = x := by
  cases answers with
  | other noDictionary => rw [peersOf, noDictionary]
  | failure failure => exact peersOf_refused _ failure
  | missing fine missing => exact peersOf_missing fine missing
  | invalid fine first rest => rw [peersOf_bytes fine first, readPeers_partial rest]
  | peers fine first => rw [peersOf_bytes fine first, readPeers_compact]

/-- Every document has an answer. -/
lemma exists_answers (root : Node) : ∃ x, Answers root x := by
  cases root with
  | dict span entries =>
    cases failure : (Node.dict span entries).lookup? (Bytes.ofText "failure reason") with
    | some reason => exact ⟨_, .failure (lookup?_eq_some.mp failure)⟩
    | none =>
      have fine := lookup?_eq_none.mp failure
      by_cases first : ∃ stretch b, First "peers" entries (.bytes stretch b)
      · obtain ⟨stretch, b, first⟩ := first
        obtain ⟨peers, rfl⟩ | rest := readPeers_cases b
        · exact ⟨_, .peers fine first⟩
        · exact ⟨_, .invalid fine first rest⟩
      · exact ⟨_, .missing fine fun stretch b there => first ⟨stretch, b, there⟩⟩
  | _ => exact ⟨_, .other rfl⟩

/-- What is made of a document is what it answers. -/
lemma peersOf_eq_iff : peersOf root = x ↔ Answers root x := by
  constructor
  · rintro rfl
    obtain ⟨x, answers⟩ := exists_answers root
    rwa [answers.peersOf_eq]
  · exact Answers.peersOf_eq

/-! ## Bodies -/

/-- Peers are read from a body that begins with a dictionary with their records. -/
lemma readBody_eq_ok : readBody body = .ok peers ↔
    ∃ span entries stretch, decode body = .ok (.dict span entries) ∧
      Lacks "failure reason" entries ∧
      First "peers" entries (.bytes stretch (peers.flatMap Endpoint.compact)) := by
  rw [readBody]
  cases decode body with
  | error e => simp
  | ok root =>
    dsimp only
    rw [peersOf_eq_iff]
    constructor
    · rintro ⟨⟩
      rename_i fine first
      exact ⟨_, _, _, rfl, fine, first⟩
    · rintro ⟨_, _, _, ⟨⟩, fine, first⟩
      exact .peers fine first

/-- A body yields peers exactly if a dictionary without an entry for a failure stands at its
beginning in which the first entry for peers holds their records. Every other body is answered with
the error of the decoder, or with what the document at its beginning is answered with. A UDP reply
that is accepted gives the same peers as a body with the same records in it. -/
theorem readBody_answers (body : Bytes) :
    (∀ peers, readBody body = .ok peers ↔
      ∃ span entries stretch, decode body = .ok (.dict span entries) ∧
        Lacks "failure reason" entries ∧
        First "peers" entries (.bytes stretch (peers.flatMap Endpoint.compact))) ∧
    (∀ e, readBody body = .error e ↔
      (∃ malformed, decode body = .error malformed ∧ e = .decode malformed) ∨
        ∃ root, decode body = .ok root ∧ Answers root (.error e)) ∧
    (∀ span entries stretch d t strict (r : Udp.Reply), decode body = .ok (.dict span entries) →
      Lacks "failure reason" entries → First "peers" entries (.bytes stretch (d.drop 20)) →
      Udp.replyOf d t strict = .ok r → readBody body = .ok r.peers) := by
  refine ⟨fun peers => readBody_eq_ok, ?_, ?_⟩
  · intro e
    rw [readBody]
    cases decode body with
    | error malformed => simp [eq_comm]
    | ok root => simp [peersOf_eq_iff]
  · intro span entries stretch d t strict r decoded fine first accepted
    rw [(Udp.replyOf_eq_ok.mp accepted).peers] at first
    exact readBody_eq_ok.mpr ⟨span, entries, stretch, decoded, fine, first⟩

/-- The peer of a UDP reply in the first of two entries, with a byte after the dictionary; and the same
peer after an entry for a failure that is no text. -/
theorem readBody_answers_repeated :
    let body := Bytes.ofText "d5:peers6:abcdef5:peersi1eex"
    let failure := Bytes.ofText "d14:failure reasoni7e5:peers6:abcdefe"
    let d : Bytes := [0, 0, 0, 1] ++ [0, 0, 0, 7] ++ [0, 0, 7, 8] ++ [0, 0, 0, 0] ++ [0, 0, 0, 1] ++
      Bytes.ofText "abcdef"
    let peer : Endpoint := ⟨⟨97, 98, 99, 100⟩, 0x6566⟩
    Udp.replyOf d 7 true = .ok ⟨1800, 0, 1, [peer]⟩ ∧ readBody body = .ok [peer] ∧
      readBody failure = .error (.refused "unspecified") := by
  intro body failure d peer
  let entries : List (Bytes × Node) :=
    [ (Bytes.ofText "peers", .bytes ⟨8, 16⟩ (Bytes.ofText "abcdef"))
    , (Bytes.ofText "peers", .integer ⟨23, 26⟩ 1) ]
  let refusing : List (Bytes × Node) :=
    [ (Bytes.ofText "failure reason", .integer ⟨18, 21⟩ 7)
    , (Bytes.ofText "peers", .bytes ⟨28, 36⟩ (Bytes.ofText "abcdef")) ]
  have spelled : body = [100, 53, 58, 112, 101, 101, 114, 115, 54, 58, 97, 98, 99, 100, 101, 102,
      53, 58, 112, 101, 101, 114, 115, 105, 49, 101, 101, 120] := by decide
  have spelled' : failure = [100, 49, 52, 58, 102, 97, 105, 108, 117, 114, 101, 32, 114, 101, 97, 115,
      111, 110, 105, 55, 101, 53, 58, 112, 101, 101, 114, 115, 54, 58, 97, 98, 99, 100, 101, 102,
      101] := by decide
  have decoded : decode body = .ok (.dict ⟨0, 27⟩ entries) := by
    rw [spelled]
    rfl
  have decoded' : decode failure = .ok (.dict ⟨0, 37⟩ refusing) := by
    rw [spelled']
    rfl
  have accepted : Udp.replyOf d 7 true = .ok ⟨1800, 0, 1, [peer]⟩ := by decide
  have fine : Lacks "failure reason" entries := by
    simp only [Lacks, entries, List.forall_mem_cons]
    exact ⟨by decide, by decide, nofun⟩
  have records : d.drop 20 = Bytes.ofText "abcdef" := rfl
  have first : First "peers" entries (.bytes ⟨8, 16⟩ (d.drop 20)) := by
    rw [records]
    exact ⟨[], [_], rfl, nofun⟩
  have refused : First "failure reason" refusing (.integer ⟨18, 21⟩ 7) := ⟨[], [_], rfl, nofun⟩
  exact ⟨accepted, (readBody_answers body).2.2 _ _ _ d 7 true _ decoded fine first accepted,
    ((readBody_answers failure).2.1 _).mpr (.inr ⟨_, decoded', .failure refused⟩)⟩

end Swarm.Tracker.Http
