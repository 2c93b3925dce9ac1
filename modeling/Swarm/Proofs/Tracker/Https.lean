import Swarm.Proofs.Tracker.Http.Peers
import Swarm.Tracker.Fetch

/-!
# Outcomes of HTTPS announces

What comes of a request that a library makes. A reply counts if its status says that the request was
served and if it declares no body above the limit; then the body counts, if it can be read and is not
above the limit itself. So peers are only taken from a whole body within the limit, and they are those
that the document at its beginning is answered with.
-/

namespace Swarm.Tracker.Https

open Swarm.Bencode
open Swarm.Net (Endpoint)

/-- The reply has a status of success, and declares no body above the limit. -/
structure Acceptable (limits : Http.Limits) (answer : Answer) : Prop where
  served : 200 ≤ answer.status.toNat ∧ answer.status.toNat < 300
  modest : ∀ length ∈ answer.length, length ≤ limits.maxResponse

/-- What an announce results in, for each way in which a request may end. -/
inductive Ends (limits : Http.Limits) :
    Except LibraryFault Answer → Except Error (List Endpoint) → Prop where
  | failed {f} :
    Ends limits (.error f) (.error (.https f))
  | status {answer} :
    ¬ (200 ≤ answer.status.toNat ∧ answer.status.toNat < 300) →
    Ends limits (.ok answer) (.error (.malformedHttp (.status answer.status.toNat)))
  | declared {answer length} :
    200 ≤ answer.status.toNat ∧ answer.status.toNat < 300 →
    answer.length = some length →
    limits.maxResponse < length →
    Ends limits (.ok answer) (.error (.responseTooLarge limits.maxResponse))
  | unread {answer f} :
    Acceptable limits answer →
    answer.body = .error f →
    Ends limits (.ok answer) (.error (.https f))
  | large {answer body} :
    Acceptable limits answer →
    answer.body = .ok body →
    limits.maxResponse < body.length →
    Ends limits (.ok answer) (.error (.responseTooLarge limits.maxResponse))
  | malformed {answer body e} :
    Acceptable limits answer →
    answer.body = .ok body →
    body.length ≤ limits.maxResponse →
    decode body = .error e →
    Ends limits (.ok answer) (.error (.decode e))
  | answered {answer body root x} :
    Acceptable limits answer →
    answer.body = .ok body →
    body.length ≤ limits.maxResponse →
    decode body = .ok root →
    Http.Answers root x →
    Ends limits (.ok answer) x

variable {limits : Http.Limits} {reply : Except LibraryFault Answer} {answer : Answer}
variable {x : Except Error (List Endpoint)} {peers : List Endpoint}

/-- Of a reply that was served and declares too long a body nothing is read. -/
lemma readAnswer_declared {length : Nat}
    (served : 200 ≤ answer.status.toNat ∧ answer.status.toNat < 300)
    (declared : answer.length = some length) (above : limits.maxResponse < length) :
    readAnswer limits answer = .error (.responseTooLarge limits.maxResponse) := by
  rw [readAnswer, Http.checkStatus, if_pos served, declared]
  simp only [Option.any_some, above, decide_true, if_true]

/-- Of an acceptable reply the body is read. -/
lemma Acceptable.readAnswer (ok : Acceptable limits answer) :
    readAnswer limits answer =
      match answer.body with
      | .error f => .error (.https f)
      | .ok body =>
        if limits.maxResponse < body.length then .error (.responseTooLarge limits.maxResponse)
        else Http.readBody body := by
  have modest : answer.length.any (limits.maxResponse < ·) = false := by
    rw [Option.any_eq_false]
    exact fun length declared => decide_eq_false (Nat.not_lt.mpr (ok.modest length declared))
  rw [Https.readAnswer, Http.checkStatus, if_pos ok.served, modest]
  rfl

/-- An announce results in what its request ends with. -/
lemma Ends.outcome_eq (h : Ends limits reply x) : outcome limits reply = x := by
  cases h with
  | failed => rfl
  | status unserved => rw [outcome, readAnswer, Http.checkStatus, if_neg unserved]
  | declared served length above => exact readAnswer_declared served length above
  | unread ok failed => rw [outcome, ok.readAnswer, failed]
  | large ok body above =>
    rw [outcome, ok.readAnswer, body]
    exact if_pos above
  | malformed ok body within failed =>
    rw [outcome, ok.readAnswer, body]
    simp only [if_neg (Nat.not_lt.mpr within), Http.readBody, failed]
  | answered ok body within decoded answers =>
    rw [outcome, ok.readAnswer, body]
    simp only [if_neg (Nat.not_lt.mpr within), Http.readBody, decoded]
    exact answers.peersOf_eq

/-- An acceptable reply ends with its body. -/
lemma Acceptable.exists_ends (ok : Acceptable limits answer) : ∃ x, Ends limits (.ok answer) x := by
  cases read : answer.body with
  | error f => exact ⟨_, .unread ok read⟩
  | ok body =>
    by_cases above : limits.maxResponse < body.length
    · exact ⟨_, .large ok read above⟩
    · have within := Nat.not_lt.mp above
      cases decoded : decode body with
      | error e => exact ⟨_, .malformed ok read within decoded⟩
      | ok root =>
        obtain ⟨x, answers⟩ := Http.exists_answers root
        exact ⟨x, .answered ok read within decoded answers⟩

/-- Every request ends in one of these ways. -/
lemma exists_ends (limits : Http.Limits) (reply : Except LibraryFault Answer) :
    ∃ x, Ends limits reply x := by
  rcases reply with f | answer
  · exact ⟨_, .failed⟩
  by_cases served : 200 ≤ answer.status.toNat ∧ answer.status.toNat < 300
  · by_cases modest : ∀ length ∈ answer.length, length ≤ limits.maxResponse
    · exact Acceptable.exists_ends ⟨served, modest⟩
    · simp only [not_forall, Nat.not_le] at modest
      obtain ⟨length, declared, above⟩ := modest
      exact ⟨_, .declared served declared above⟩
  · exact ⟨_, .status served⟩

/-- An announce results in something exactly if its request ends with it. -/
theorem outcome_eq_iff : outcome limits reply = x ↔ Ends limits reply x := by
  constructor
  · rintro rfl
    obtain ⟨x, ends⟩ := exists_ends limits reply
    rwa [ends.outcome_eq]
  · exact Ends.outcome_eq

/-- An announce to a tracker over HTTPS makes the library ready and has it request one URL, that of the
tracker with the query of the announce; its result is what this request ends with. If the library cannot
be made ready, nothing is requested. -/
theorem fetch_https {n : Network} {library : Library} {config : Config} {url address : String}
    {t : List Deed} (a : Announce) (secure : n.secure = some library)
    (read : Target.ofUrl n.parse url = .ok (.https address)) :
    (∃ f, library.unusable t = some f ∧
      n.fetch config url a t = (.error (.https f), t ++ [.prepare])) ∨
    ∃ x, library.unusable t = none ∧
      Ends config.http (library.get (t ++ [.prepare]) (target address a)) x ∧
      n.fetch config url a t = (x, t ++ [.prepare, .get (target address a)]) := by
  rw [Network.fetch, Network.open, read]
  simp only [secure]
  cases ready : library.unusable t with
  | some f => exact .inl ⟨f, rfl, rfl⟩
  | none =>
    refine .inr ⟨_, rfl, outcome_eq_iff.mp rfl, ?_⟩
    simp only [Network.ask, secure, List.append_assoc, List.singleton_append]

end Swarm.Tracker.Https
