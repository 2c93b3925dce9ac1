import Mathlib.Data.List.Induction
import Swarm.Proofs.Bencode.Lookup
import Swarm.Proofs.Text.Decoding
import Swarm.Proofs.Torrent.Trackers

/-!
# Tiers of trackers

The trackers of a torrent are its first one and then the texts of its tiers, each where it occurs for the
first time. What is no tier, and what is no text in a tier, is passed over on its own: the texts before it
and after it are listed all the same.
-/

namespace Swarm.Torrent.Metainfo

open Swarm.Bencode

/-- The texts among the entries of a tier, in order. -/
inductive Texts : List Node → List String → Prop where
  | nil :
    Texts [] []
  | text {span url ns urls} :
    Texts ns urls →
    Texts (.bytes span (Bytes.ofText url) :: ns) (url :: urls)
  | other {n ns urls} :
    (∀ span url, n ≠ .bytes span (Bytes.ofText url)) →
    Texts ns urls →
    Texts (n :: ns) urls

/-- The texts of the tiers among some nodes, tier by tier. -/
inductive Tiers : List Node → List String → Prop where
  | nil :
    Tiers [] []
  | tier {span ns tiers urls more} :
    Texts ns urls →
    Tiers tiers more →
    Tiers (.list span ns :: tiers) (urls ++ more)
  | other {n tiers urls} :
    (∀ span ns, n ≠ .list span ns) →
    Tiers tiers urls →
    Tiers (n :: tiers) urls

/-- The texts that are listed under the key of the tiers; without a list there are none. -/
inductive Listed (entries : List (Bytes × Node)) : List String → Prop where
  | tiers {span tiers urls} :
    First "announce-list" entries (.list span tiers) →
    Tiers tiers urls →
    Listed entries urls
  | none :
    (∀ span tiers, ¬ First "announce-list" entries (.list span tiers)) →
    Listed entries []

variable {source : Bytes} {t : Metainfo} {n : Node} {url : String}
variable {span : Span} {entries : List (Bytes × Node)}

/-! ## First occurrences -/

/-- A text behind others is a first occurrence if it is not among them. -/
lemma eraseDups_concat (seen : List String) (url : String) :
    (seen ++ [url]).eraseDups =
      if url ∈ seen then seen.eraseDups else seen.eraseDups ++ [url] := by
  rw [List.eraseDups_append, List.removeAll]
  by_cases known : url ∈ seen
  · simp [known]
  · simp [known, List.eraseDups_cons]

/-- The first occurrences of texts are in the order of their places. -/
lemma pairwise_eraseDups (urls : List String) :
    urls.eraseDups.Pairwise fun u v => urls.idxOf u < urls.idxOf v := by
  induction urls using List.reverseRecOn with
  | nil => exact .nil
  | append_singleton urls url ih =>
    -- a text behind the others does not move their first occurrences
    have stays {u : String} (mem : u ∈ urls.eraseDups) : (urls ++ [url]).idxOf u = urls.idxOf u :=
      List.idxOf_append_of_mem (List.mem_eraseDups.mp mem)
    have before : urls.eraseDups.Pairwise fun u v =>
        (urls ++ [url]).idxOf u < (urls ++ [url]).idxOf v := by
      refine ih.imp_of_mem fun {u v} left right less => ?_
      rwa [stays left, stays right]
    rw [eraseDups_concat]
    split
    case isTrue => exact before
    case isFalse fresh =>
      refine List.pairwise_append.mpr ⟨before, List.pairwise_singleton .., fun u mem v last => ?_⟩
      obtain rfl := List.mem_singleton.mp last
      rw [stays mem, List.idxOf_append_of_notMem fresh]
      exact Nat.lt_add_right _ (List.idxOf_lt_length_of_mem (List.mem_eraseDups.mp mem))

/-- What is added to first occurrences are those of the texts that follow. -/
lemma addTexts_eraseDups (seen : List String) (nodes : List Node) :
    addTexts seen.eraseDups nodes = (seen ++ nodes.filterMap Node.text?).eraseDups := by
  induction nodes generalizing seen with
  | nil => rw [List.filterMap_nil, List.append_nil, addTexts, List.foldl_nil]
  | cons n nodes ih =>
    rw [addTexts, List.foldl_cons]
    cases read : n.text? with
    | none =>
      rw [List.filterMap_cons_none read]
      exact ih seen
    | some url =>
      have step : (if seen.eraseDups.contains url then seen.eraseDups else seen.eraseDups ++ [url]) =
          (seen ++ [url]).eraseDups := by
        rw [eraseDups_concat]
        simp only [List.contains_iff_mem, List.mem_eraseDups]
      rw [List.filterMap_cons_some read, List.append_cons, ← ih, ← step]
      rfl

/-! ## Texts and tiers -/

/-- A text is the bytes of a string. -/
lemma text?_eq_some : n.text? = some url ↔ ∃ span, n = .bytes span (Bytes.ofText url) := by
  cases n with
  | bytes span b =>
    rw [Node.text?, Node.bytes?, Option.bind_some, Text.Utf8.text?_eq_some]
    constructor
    · rintro rfl
      exact ⟨span, rfl⟩
    · rintro ⟨_, ⟨⟩⟩
      rfl
  | _ =>
    constructor
    · nofun
    · rintro ⟨_, ⟨⟩⟩

/-- The texts among some nodes, in their order. -/
lemma texts_filterMap (ns : List Node) : Texts ns (ns.filterMap Node.text?) := by
  induction ns with
  | nil => exact .nil
  | cons n ns ih =>
    cases read : n.text? with
    | none =>
      rw [List.filterMap_cons_none read]
      refine .other (fun span url eq => ?_) ih
      cases read.symm.trans (text?_eq_some.mpr ⟨span, eq⟩)
    | some url =>
      obtain ⟨span, rfl⟩ := text?_eq_some.mp read
      rw [List.filterMap_cons_some read]
      exact .text ih

/-- The texts of all tiers, in their order. -/
lemma tiers_flatMap (tiers : List Node) :
    Tiers tiers ((tiers.flatMap fun tier => (tier.items?).getD []).filterMap Node.text?) := by
  induction tiers with
  | nil => exact .nil
  | cons n tiers ih =>
    rw [List.flatMap_cons, List.filterMap_append]
    cases n with
    | list span ns => exact .tier (texts_filterMap ns) ih
    | _ => exact .other nofun ih

/-- The trackers are the first occurrences of the first tracker and of the texts that are listed. -/
lemma readTrackers_listed (announce : String) (span : Span) (entries : List (Bytes × Node)) :
    ∃ listed, Listed entries listed ∧
      readTrackers announce (.dict span entries) = (announce :: listed).eraseDups := by
  have alone : [announce] = [announce].eraseDups := rfl
  rw [readTrackers]
  split
  · rename_i absent
    refine ⟨[], .none fun stretch tiers first => ?_, alone⟩
    rw [lookup?_eq_some.mpr first] at absent
    cases absent
  · rename_i tiers found
    obtain ⟨n, first, items⟩ := Option.bind_eq_some_iff.mp found
    cases n with
    | list stretch ns =>
      cases items
      refine ⟨_, .tiers (lookup?_eq_some.mp first) (tiers_flatMap tiers), ?_⟩
      rw [alone, addTexts_eraseDups]
      rfl
    | _ => cases items

/-- The trackers of a torrent are the first occurrences of its first tracker and of the texts in its
tiers, in this order. -/
theorem ofBytes_trackers (h : ofBytes source = .ok t) :
    ∃ span entries stretch listed, decodeExact source = .ok (.dict span entries) ∧
      First "announce" entries (.bytes stretch (Bytes.ofText t.announce)) ∧
      Listed entries listed ∧
      t.trackers = (t.announce :: listed).eraseDups ∧
      t.trackers.head? = some t.announce ∧ t.trackers.Nodup ∧
      (∀ url, url ∈ t.trackers ↔ url = t.announce ∨ url ∈ listed) ∧
      t.trackers.Pairwise fun u v =>
        (t.announce :: listed).idxOf u < (t.announce :: listed).idxOf v := by
  have once := nodup_trackers h
  obtain ⟨root, decoded, made⟩ := ofBytes_eq_ok.mp h
  simp only [ofNode, bind_eq_ok, require_eq_ok] at made
  obtain ⟨entries, dictionary, announce, announced, made⟩ := made
  obtain ⟨node, found, text⟩ := Option.bind_eq_some_iff.mp announced
  obtain ⟨stretch, rfl⟩ := text?_eq_some.mp text
  cases root with
  | dict span entries =>
    obtain ⟨listed, lists, trackers⟩ := readTrackers_listed announce span entries
    obtain ⟨_, -, _, -, _, -, _, -, _, -, _, -, _, -, _, -, made⟩ := made
    cases made
    refine ⟨span, entries, stretch, listed, decoded, lookup?_eq_some.mp found, lists, trackers, ?_,
      once, fun url => ?_, ?_⟩
    · rw [trackers, List.eraseDups_cons, List.head?_cons]
    · rw [trackers, List.mem_eraseDups, List.mem_cons]
    · rw [trackers]
      exact pairwise_eraseDups _
  | _ => cases dictionary

/-- A number stands among the tiers; in the tiers stand a number, bytes that are no text, and texts that
are known. -/
theorem ofBytes_trackers_passed_over :
    let source := Bytes.ofText "d8:announce1:a13:announce-listli1el1:bi2e1:a1:" ++ [0xFF] ++
      Bytes.ofText "1:ce1:xl1:b1:dee4:infod6:lengthi0e4:name1:n12:piece lengthi1e6:pieces0:ee"
    ∃ t, ofBytes source = .ok t ∧ t.trackers = ["a", "b", "c", "d"] ∧
      ∃ entries listed, Listed entries listed ∧ t.trackers = ("a" :: listed).eraseDups := by
  intro source
  have read : (ofBytes source).toOption.map (fun t => (t.announce, t.trackers)) =
      some ("a", ["a", "b", "c", "d"]) := by decide +kernel
  cases made : ofBytes source with
  | error e =>
    rw [made] at read
    cases read
  | ok t =>
    obtain ⟨-, entries, -, listed, -, -, lists, trackers, -⟩ := ofBytes_trackers made
    rw [made] at read
    obtain ⟨announce, all⟩ := Prod.mk.inj (Option.some.inj read)
    rw [announce] at trackers
    exact ⟨t, rfl, all, entries, listed, lists, trackers⟩

end Swarm.Torrent.Metainfo
