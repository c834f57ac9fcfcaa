import Mathlib.Data.List.Dedup
import Mathlib.Data.String.Basic
import PartyLine.Registry

/-!
# The registry as a map

The registry maps each URL to the channel registered for it. Registering replaces what
was there, so that a URL never has two entries, and the list of URLs is strictly
increasing.

* `find?_insert`: what is registered after a registration;
* `Registry.Distinct`: no URL has two entries;
* `mem_urls`, `pairwise_urls`: the URLs are those registered, strictly increasing;
* `decision_eq_create_iff`, `decision_eq_noActorSystem_iff`: when connecting opens a channel, and
  when it would have to but cannot.
-/

namespace PartyLine

namespace Registry

variable {r : Registry} {url url' : String} {i : Nat}

/-- No URL has two entries. -/
def Distinct (r : Registry) : Prop := (r.entries.map (·.1)).Nodup

theorem lookup_filter_of_ne (entries : List (String × Nat)) (h : url' ≠ url) :
    (entries.filter (·.1 != url)).lookup url' = entries.lookup url' := by
  induction entries with
  | nil => rfl
  | cons e entries ih =>
    obtain ⟨u, n⟩ := e
    rw [List.filter_cons]
    by_cases hu : u = url
    · have hne : (url' == u) = false := by simpa [hu] using h
      rw [if_neg (by simp [hu]), List.lookup_cons, hne, ih]
    · rw [if_pos (by simpa using hu), List.lookup_cons, List.lookup_cons, ih]

theorem lookup_filter_self (entries : List (String × Nat)) (url : String) :
    (entries.filter (·.1 != url)).lookup url = none := by
  refine List.lookup_eq_none_iff.2 fun e he => ?_
  have hne : e.1 ≠ url := by simpa using (List.mem_filter.1 he).2
  simpa using hne.symm

/-- What is registered after a registration. -/
theorem find?_insert (r : Registry) (url url' : String) (i : Nat) :
    (r.insert url i).find? url' = if url' = url then some i else r.find? url' := by
  simp only [find?, insert, List.lookup_append]
  by_cases h : url' = url
  · subst h
    simp [lookup_filter_self]
  · have hne : (url' == url) = false := by simpa using h
    simp [h, lookup_filter_of_ne _ h, List.lookup_cons, hne]

/-- Whether anything is registered for a URL. -/
theorem find?_isSome_iff : (r.find? url).isSome ↔ url ∈ r.entries.map (·.1) := by
  rw [← not_iff_not, Option.not_isSome_iff_eq_none, find?, List.lookup_eq_none_iff]
  simp only [List.mem_map, not_exists, not_and, bne_iff_ne, ne_eq]
  exact ⟨fun h e he heq => h e he heq.symm, fun h e he heq => h e he heq.symm⟩

/-- A registration adds a URL once. -/
theorem Distinct.insert (h : r.Distinct) (url : String) (i : Nat) : (r.insert url i).Distinct := by
  rw [Distinct, Registry.insert, List.map_append, List.nodup_append]
  refine ⟨h.sublist (List.filter_sublist.map _), List.nodup_singleton _, ?_⟩
  intro u hu v hv
  obtain ⟨e, he, rfl⟩ := List.mem_map.1 hu
  obtain rfl := List.mem_singleton.1 hv
  simpa using (List.mem_filter.1 he).2

/-- The listed URLs are those for which a channel is registered. -/
theorem mem_urls : url ∈ r.urls ↔ (r.find? url).isSome := by
  rw [urls, List.mem_mergeSort, find?_isSome_iff]

/-- The URLs are listed in strictly increasing order. -/
theorem Distinct.pairwise_urls (h : r.Distinct) : r.urls.Pairwise (· < ·) := by
  have hle : r.urls.Pairwise (· ≤ ·) := by
    have hsorted : r.urls.Pairwise fun a b => decide (a ≤ b) = true :=
      List.pairwise_mergeSort (by simpa using fun a b c => le_trans) (by simpa using le_total) _
    simpa using hsorted
  have hnodup : r.urls.Nodup := (List.mergeSort_perm _ _).nodup_iff.2 h
  exact hle.imp₂ (fun _ _ hle hne => lt_of_le_of_ne hle hne) hnodup

/-- The number of registered channels is that of their URLs. -/
theorem length_urls (r : Registry) : r.urls.length = r.size := by
  simp [urls, size]

section Decision

variable {ended : Nat → Bool} {hasSystem : Bool}

/-- Connecting hands back what is registered, unless that has ended and is to be replaced. -/
theorem decision_eq_reuse_iff : r.decision url ended hasSystem = .ok (.reuse i) ↔
    url ≠ "" ∧ r.find? url = some i ∧ ¬(ended i ∧ r.policy = .replace) := by
  have hdead : (ended i ∧ r.policy = .replace) ↔ (ended i && r.policy == .replace) = true := by
    simp
  rw [hdead, decision]
  by_cases hurl : url = ""
  · simp [hurl]
  · cases hfind : r.find? url with
    | none => cases hasSystem <;> simp [hurl]
    | some j =>
      cases hd : ended j && r.policy == .replace with
      | false =>
        simp only [hurl, Option.filter, hd, String.isEmpty_iff]
        grind
      | true =>
        have hne : j = i → ¬(ended i && r.policy == .replace) = false := by
          rintro rfl
          simp [hd]
        cases hasSystem <;> simp [hurl, Option.filter, hd] <;> grind

/-- Connecting opens a channel if none is registered, or if the one that is has ended and is
    to be replaced. -/
theorem decision_eq_create_iff : r.decision url ended hasSystem = .ok .create ↔
    url ≠ "" ∧ hasSystem ∧ ∀ i, r.find? url = some i → ended i ∧ r.policy = .replace := by
  rw [decision]
  by_cases hurl : url = ""
  · simp [hurl]
  · cases hfind : r.find? url with
    | none => cases hasSystem <;> simp [hurl]
    | some j =>
      have hdead : (ended j ∧ r.policy = .replace) ↔ (ended j && r.policy == .replace) = true := by
        simp
      simp only [Option.some.injEq, forall_eq', hdead]
      cases hd : ended j && r.policy == .replace <;> cases hasSystem <;>
        simp [hurl, Option.filter, hd]

/-- Connecting fails for want of a URL. -/
theorem decision_eq_emptyUrl_iff :
    r.decision url ended hasSystem = .error .emptyUrl ↔ url = "" := by
  rw [decision]
  by_cases hurl : url = ""
  · simp [hurl]
  · simp only [String.isEmpty_iff, hurl, if_false, iff_false]
    split
    · simp
    · split <;> simp

/-- It fails for want of an actor system if a channel would have to be opened. -/
theorem decision_eq_noActorSystem_iff : r.decision url ended hasSystem = .error .noActorSystem ↔
    url ≠ "" ∧ hasSystem = false ∧
      ∀ i, r.find? url = some i → ended i ∧ r.policy = .replace := by
  have hcreate : r.decision url ended true = .ok .create ↔ _ := decision_eq_create_iff
  rw [decision] at hcreate ⊢
  by_cases hurl : url = ""
  · simp [hurl]
  · simp only [String.isEmpty_iff, hurl, if_false, ne_eq, not_false_eq_true, true_and] at hcreate ⊢
    rw [← hcreate]
    split <;> cases hasSystem <;> simp

end Decision

end Registry

end PartyLine
