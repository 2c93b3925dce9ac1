import Mathlib.Data.List.Nodup
import Swarm.Proofs.Torrent.InfoDictionary

/-!
# The trackers of a torrent

The trackers of a torrent are its first one and those of its tiers. A text of the tiers is added behind
the others, or it is known already and left out; so the first one stays first, and no tracker is listed
twice.
-/

namespace Swarm.Torrent.Metainfo

open Swarm.Bencode

variable {known : List String} {source : Bytes} {t : Metainfo}

/-- A node adds nothing, or a text that is not known yet behind the others. -/
lemma addTexts_cons (known : List String) (n : Node) (nodes : List Node) :
    addTexts known (n :: nodes) = addTexts known nodes ∨
      ∃ url, url ∉ known ∧ addTexts known (n :: nodes) = addTexts (known ++ [url]) nodes := by
  rw [addTexts, List.foldl_cons]
  split
  · rename_i url _
    split
    · exact .inl rfl
    · rename_i fresh
      exact .inr ⟨url, fun inside => fresh (List.contains_iff_mem.mpr inside), rfl⟩
  · exact .inl rfl

/-- What is known stays where it is. -/
lemma exists_addTexts (known : List String) (nodes : List Node) :
    ∃ more, addTexts known nodes = known ++ more := by
  induction nodes generalizing known with
  | nil => exact ⟨[], (List.append_nil known).symm⟩
  | cons n nodes ih =>
    obtain eq | ⟨url, -, eq⟩ := addTexts_cons known n nodes
    · rw [eq]
      exact ih known
    · obtain ⟨more, rest⟩ := ih (known ++ [url])
      refine ⟨url :: more, ?_⟩
      rw [eq, rest, List.append_assoc, List.singleton_append]

/-- Adding texts keeps a list without duplicates. -/
lemma nodup_addTexts (h : known.Nodup) (nodes : List Node) : (addTexts known nodes).Nodup := by
  induction nodes generalizing known with
  | nil => exact h
  | cons n nodes ih =>
    obtain eq | ⟨url, fresh, eq⟩ := addTexts_cons known n nodes
    · rw [eq]
      exact ih h
    · rw [eq, ← List.concat_eq_append]
      exact ih (h.concat fresh)

/-- The trackers begin with the first one, and without tiers there are no others. -/
lemma readTrackers_cons (announce : String) (root : Node) :
    ∃ more, readTrackers announce root = announce :: more ∧
      (root.lookup? (Bytes.ofText "announce-list") = none → more = []) := by
  rw [readTrackers]
  split
  · exact ⟨[], rfl, fun _ => rfl⟩
  · rename_i tiers found
    obtain ⟨more, eq⟩ := exists_addTexts [announce]
      (tiers.flatMap fun tier => (tier.items?).getD [])
    refine ⟨more, eq, fun absent => ?_⟩
    rw [absent] at found
    cases found

/-- A torrent lists every tracker once. -/
theorem nodup_trackers (h : ofBytes source = .ok t) : t.trackers.Nodup := by
  obtain ⟨root, -, made⟩ := ofBytes_eq_ok.mp h
  simp only [ofNode, bind_eq_ok] at made
  obtain ⟨_, -, announce, -, _, -, _, -, _, -, _, -, _, -, _, -, _, -, _, -, made⟩ := made
  cases made
  rw [readTrackers]
  split
  · exact List.nodup_singleton announce
  · exact nodup_addTexts (List.nodup_singleton announce) _

end Swarm.Torrent.Metainfo
